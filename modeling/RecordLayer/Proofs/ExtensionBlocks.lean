import Mathlib.Tactic.Common
import RecordLayer.Proofs.Messages

/-!
# Extensions place by place

A block of extensions is read from place to place: the extension at a place says
in its third and fourth byte how many bytes its body has, and the next one stands
behind that.  A reader that takes every number from its place fails where the
number is not there in full.

* `readFrom` is that reader.  `readFrom_eq`: it never fails, and reads what
  `Extension.parse` reads.
* `segmentation_parse`: where each extension stands, and how far a block is read.
* `Item.parse_block`: extensions that were written one after another are read back
  one by one.
* `parse_places_and_items` puts this together for all blocks, with what is found
  by its type and with a key share among other extensions.
-/

namespace RecordLayer

namespace Bytes

/-- The two-byte number at a place, which has to be there in full. -/
def wordAt (bytes : Bytes) (place : Nat) : Result Nat :=
  word ((bytes.drop place).take 2)

/-- The byte at a place, which has to be there. -/
def byteAt (bytes : Bytes) (place : Nat) : Result UInt8 :=
  match bytes[place]? with
  | some byte => .ok byte
  | none => .error .byteMissing

theorem wordAt_of_le {bytes : Bytes} {place : Nat} (h : place + 2 ≤ bytes.length) :
    wordAt bytes place = .ok (bigEndianValue ((bytes.drop place).take 2)) := by
  have hlength : ((bytes.drop place).take 2).length = 2 := by
    rw [List.length_take, List.length_drop]
    omega
  rw [wordAt, word_eq, if_neg (by omega), List.take_take, Nat.min_self]

/-- Bytes that are there in full are not changed by what follows. -/
theorem window_append {bytes : Bytes} {place count : Nat} (h : place + count ≤ bytes.length)
    (more : Bytes) :
    ((bytes ++ more).drop place).take count = (bytes.drop place).take count := by
  rw [List.drop_append_of_le_length (by omega), List.take_append_of_le_length]
  rw [List.length_drop]
  omega

/-- What stands behind known bytes at a place. -/
theorem drop_behind {bytes front rest : Bytes} {place : Nat}
    (h : bytes.drop place = front ++ rest) : bytes.drop (place + front.length) = rest := by
  rw [← List.drop_drop, h, List.drop_left]

/-- At least two bytes, taken apart. -/
theorem exists_two {bytes : Bytes} (h : 2 ≤ bytes.length) :
    ∃ high low rest, bytes = high :: low :: rest := by
  match bytes with
  | [] => simp at h
  | [_] => simp at h
  | high :: low :: rest => exact ⟨high, low, rest, rfl⟩

/-- At least four bytes, taken apart. -/
theorem exists_four {bytes : Bytes} (h : 4 ≤ bytes.length) :
    ∃ b₁ b₂ b₃ b₄ rest, bytes = b₁ :: b₂ :: b₃ :: b₄ :: rest := by
  obtain ⟨b₁, b₂, later, rfl⟩ := exists_two (by omega : 2 ≤ bytes.length)
  obtain ⟨b₃, b₄, rest, rfl⟩ := exists_two (by simpa using h : 2 ≤ later.length)
  exact ⟨b₁, b₂, b₃, b₄, rest, rfl⟩

end Bytes

namespace Extension

/-! ## A reader that can fail -/

/-- The versions in a body.  When offered, they are taken from every other place
behind the first byte, as far as a whole one is there. -/
def versionsAt : Form → Bytes → Result Content
  | .answer, body =>
    if 2 ≤ body.length then do return .chosenVersion (← body.wordAt 0) else return .plain
  | .offer, body =>
    if 1 ≤ body.length then do
      let size ← body.byteAt 0
      let places := List.range' 1 ((size.toNat + 1) / 2) 2
      let versions ← (places.filter fun place => place + 1 < body.length).mapM body.wordAt
      return .offeredVersions versions
    else return .plain

/-- The share at the front of a byte string. -/
def shareAt (entry : Bytes) : Result Content :=
  if 4 ≤ entry.length then do
    let group ← entry.wordAt 0
    let size ← entry.wordAt 2
    return .keyShare group size ((entry.drop 4).take size)
  else return .plain

/-- What is understood of a body. -/
def contentAt (form : Form) (type : Nat) (body : Bytes) : Result Content :=
  if type = supportedVersionsType then versionsAt form body
  else if type = keyShareType then
    match form with
    | .offer => shareAt (body.drop 2)
    | .answer => shareAt body
  else return .plain

/-- The extensions of a block from a place on, as long as there are four bytes. -/
def readFrom (form : Form) (data : Bytes) (place : Nat) : Result (List Extension) :=
  if place + 4 ≤ data.length then do
    let type ← data.wordAt place
    let size ← data.wordAt (place + 2)
    let content ← contentAt form type ((data.drop (place + 4)).take size)
    let later ← readFrom form data (place + 4 + size)
    return { type, size, content } :: later
  else return []
termination_by data.length - place

/-! ## It never fails -/

/-- The numbers at every other place are those that are there in full. -/
theorem mapM_wordAt (body : Bytes) (count place : Nat) :
    ((List.range' place count 2).filter fun place => place + 1 < body.length).mapM body.wordAt =
      .ok (words count (body.drop place)) := by
  induction count generalizing place with
  | zero => rfl
  | succ count ih =>
    rw [List.range'_succ]
    by_cases hfits : place + 1 < body.length
    · obtain ⟨high, low, rest, hdrop⟩ :=
        Bytes.exists_two (by rw [List.length_drop]; omega : 2 ≤ (body.drop place).length)
      have hrest : body.drop (place + 2) = rest :=
        @Bytes.drop_behind body [high, low] rest place hdrop
      have hword : body.wordAt place = .ok (256 * high.toNat + low.toNat) := by
        rw [Bytes.wordAt, hdrop]
        rfl
      rw [List.filter_cons_of_pos (by simpa using hfits), List.mapM_cons, hword, ih, hrest, hdrop]
      rfl
    · -- no number is left at this place, and so none behind it
      have hnil : body.drop (place + 2) = [] := List.drop_eq_nil_of_le (by omega)
      have hlength : (body.drop place).length < 2 := by
        rw [List.length_drop]
        omega
      have hwords : words (count + 1) (body.drop place) = [] := by
        match body.drop place, hlength with
        | [], _ => rfl
        | [_], _ => rfl
      rw [List.filter_cons_of_neg (by simpa using hfits), ih, hnil, hwords]
      cases count <;> rfl

theorem versionsAt_eq (form : Form) (body : Bytes) :
    versionsAt form body = .ok (versionsOf form body) := by
  cases form with
  | answer =>
    match body with
    | [] => rfl
    | [_] => rfl
    | high :: low :: rest =>
      rw [versionsAt, if_pos (by simp)]
      rfl
  | offer =>
    match body with
    | [] => rfl
    | size :: rest =>
      have hversions := mapM_wordAt (size :: rest) ((size.toNat + 1) / 2) 1
      have hbyte : Bytes.byteAt (size :: rest) 0 = .ok size := rfl
      rw [versionsAt, if_pos (by simp), hbyte, Result.ok_bind]
      dsimp only
      rw [hversions]
      rfl

theorem shareAt_eq (entry : Bytes) : shareAt entry = .ok (shareOf entry) := by
  by_cases hfits : 4 ≤ entry.length
  · obtain ⟨g₁, g₂, n₁, n₂, rest, rfl⟩ := Bytes.exists_four hfits
    rw [shareAt, if_pos hfits, Bytes.wordAt_of_le (by omega), Bytes.wordAt_of_le (by omega)]
    rfl
  · rw [shareAt, if_neg hfits]
    match entry, hfits with
    | [], _ => rfl
    | [_], _ => rfl
    | [_, _], _ => rfl
    | [_, _, _], _ => rfl
    | _ :: _ :: _ :: _ :: _, h => simp at h

theorem contentAt_eq (form : Form) (type : Nat) (body : Bytes) :
    contentAt form type body = .ok (contentOf form type body) := by
  unfold contentAt contentOf
  split_ifs
  · exact versionsAt_eq form body
  · cases form with
    | offer => exact shareAt_eq (body.drop 2)
    | answer => exact shareAt_eq body
  · rfl

/-- The extension at a place, with a body as far as it is there. -/
def entryAt (form : Form) (data : Bytes) (place : Nat) : Extension :=
  let type := Bytes.bigEndianValue ((data.drop place).take 2)
  let size := Bytes.bigEndianValue ((data.drop (place + 2)).take 2)
  { type, size, content := contentOf form type ((data.drop (place + 4)).take size) }

/-- Where four bytes are there, an extension is read, and then what is behind it. -/
theorem parse_drop {form : Form} {data : Bytes} {place : Nat} (h : place + 4 ≤ data.length) :
    parse form (data.drop place) =
      entryAt form data place ::
        parse form (data.drop (place + 4 + (entryAt form data place).size)) := by
  obtain ⟨t₁, t₂, n₁, n₂, rest, hdrop⟩ :=
    Bytes.exists_four (by rw [List.length_drop]; omega : 4 ≤ (data.drop place).length)
  have hsize : data.drop (place + 2) = n₁ :: n₂ :: rest :=
    @Bytes.drop_behind data [t₁, t₂] _ place hdrop
  have hrest : data.drop (place + 4) = rest :=
    @Bytes.drop_behind data [t₁, t₂, n₁, n₂] rest place hdrop
  have hentry : entryAt form data place =
      { type := Bytes.bigEndianValue [t₁, t₂], size := Bytes.bigEndianValue [n₁, n₂],
        content := contentOf form (Bytes.bigEndianValue [t₁, t₂])
          (rest.take (Bytes.bigEndianValue [n₁, n₂])) } := by
    rw [entryAt, hdrop, hsize, hrest]
    rfl
  rw [← List.drop_drop, hrest, hentry, hdrop, parse]

/-- Where there are not four bytes, nothing is read. -/
theorem parse_drop_of_short {form : Form} {data : Bytes} {place : Nat}
    (h : data.length < place + 4) : parse form (data.drop place) = [] := by
  have hlength : (data.drop place).length < 4 := by
    rw [List.length_drop]
    omega
  match data.drop place, hlength with
  | [], _ => exact parse_nil form
  | [_], _ => simp [parse]
  | [_, _], _ => simp [parse]
  | [_, _, _], _ => simp [parse]
  | _ :: _ :: _ :: _ :: rest, h =>
    simp only [List.length_cons] at h
    omega

/-- From any place on, reading place by place does not fail, and gives what is
read of the bytes from there on. -/
theorem readFrom_eq (form : Form) (data : Bytes) (place : Nat) :
    readFrom form data place = .ok (parse form (data.drop place)) := by
  induction hn : data.length - place using Nat.strongRecOn generalizing place with
  | ind n ih =>
    rw [readFrom]
    by_cases hfits : place + 4 ≤ data.length
    · have hlater := ih _ (by omega) (place + 4 + (entryAt form data place).size) rfl
      rw [if_pos hfits, parse_drop hfits, Bytes.wordAt_of_le (by omega),
        Bytes.wordAt_of_le (by omega), Result.ok_bind, Result.ok_bind, contentAt_eq, Result.ok_bind]
      show (readFrom form data (place + 4 + (entryAt form data place).size) >>= fun later => _) = _
      rw [hlater]
      rfl
    · rw [if_neg hfits, parse_drop_of_short (by omega)]
      rfl

/-! ## Where the extensions of a block stand -/

/-- Where an extension of a row starts: behind the earlier ones, each of which has
four bytes and a body as large as it says. -/
def start : List Extension → Nat → Nat
  | extension :: later, i + 1 => 4 + extension.size + start later i
  | _, _ => 0

theorem start_zero (extensions : List Extension) : start extensions 0 = 0 := by
  cases extensions <;> rfl

theorem start_cons_succ (extension : Extension) (later : List Extension) (i : Nat) :
    start (extension :: later) (i + 1) = 4 + extension.size + start later i := rfl

theorem start_succ {extensions : List Extension} {i : Nat} (h : i < extensions.length) :
    start extensions (i + 1) = start extensions i + 4 + extensions[i].size := by
  induction extensions generalizing i with
  | nil => cases h
  | cons extension later ih =>
    cases i with
    | zero =>
      rw [start_cons_succ, start_zero, start_zero]
      show _ = 0 + 4 + extension.size
      omega
    | succ i =>
      have hlater : i < later.length := Nat.lt_of_succ_lt_succ h
      have hnext := ih hlater
      rw [start_cons_succ, start_cons_succ, hnext]
      show _ = _ + 4 + later[i].size
      omega

/-- What is read first, and what is left to read behind it. -/
theorem parse_drop_eq_cons {form : Form} {data : Bytes} {place : Nat} {extension : Extension}
    {later : List Extension} (h : parse form (data.drop place) = extension :: later) :
    place + 4 ≤ data.length ∧ extension = entryAt form data place ∧
      parse form (data.drop (place + 4 + extension.size)) = later := by
  by_cases hfits : place + 4 ≤ data.length
  · rw [parse_drop hfits] at h
    obtain ⟨rfl, hlater⟩ := List.cons.inj h
    exact ⟨hfits, rfl, hlater⟩
  · rw [parse_drop_of_short (by omega)] at h
    cases h

/-- What is read from a place on stands behind what was read before it. -/
theorem stands_of_parse_drop {form : Form} {data : Bytes} {place : Nat}
    {extensions : List Extension} (hparse : parse form (data.drop place) = extensions) {i : Nat}
    (h : i < extensions.length) :
    place + start extensions i + 4 ≤ data.length ∧
      extensions[i] = entryAt form data (place + start extensions i) := by
  induction extensions generalizing place i with
  | nil => cases h
  | cons extension later ih =>
    obtain ⟨hfits, hentry, hlater⟩ := parse_drop_eq_cons hparse
    cases i with
    | zero => exact ⟨hfits, hentry⟩
    | succ i =>
      have hstands := ih hlater (Nat.lt_of_succ_lt_succ h)
      rw [start_cons_succ, show place + (4 + extension.size + start later i) =
        place + 4 + extension.size + start later i by omega]
      exact hstands

/-- Behind what is read from a place on there are not four bytes. -/
theorem ends_of_parse_drop {form : Form} {data : Bytes} {place : Nat}
    {extensions : List Extension} (hparse : parse form (data.drop place) = extensions) :
    data.length < place + start extensions extensions.length + 4 := by
  induction extensions generalizing place with
  | nil =>
    show data.length < place + 0 + 4
    by_cases hfits : place + 4 ≤ data.length
    · rw [parse_drop hfits] at hparse
      cases hparse
    · omega
  | cons extension later ih =>
    obtain ⟨-, -, hlater⟩ := parse_drop_eq_cons hparse
    have hends := ih hlater
    rw [List.length_cons, start_cons_succ]
    omega

/-- Bytes behind an extension that is there in full do not change it. -/
theorem entryAt_append {form : Form} {data : Bytes} {place : Nat}
    (h : place + 4 + (entryAt form data place).size ≤ data.length) (more : Bytes) :
    entryAt form (data ++ more) place = entryAt form data place := by
  have hbody : ((data ++ more).drop (place + 4)).take
      (Bytes.bigEndianValue ((data.drop (place + 2)).take 2)) = _ := Bytes.window_append h more
  unfold entryAt
  rw [Bytes.window_append (by omega), Bytes.window_append (by omega)]
  dsimp only
  rw [hbody]
  rfl

/-- A block that ends with its last extension is read before whatever follows it. -/
theorem parse_append {form : Form} {data : Bytes} {extensions : List Extension}
    (hparse : parse form data = extensions)
    (hwhole : start extensions extensions.length = data.length) (more : Bytes) :
    parse form (data ++ more) = extensions ++ parse form more := by
  induction extensions generalizing data with
  | nil =>
    change 0 = data.length at hwhole
    rw [List.eq_nil_of_length_eq_zero hwhole.symm]
    rfl
  | cons extension later ih =>
    rw [← @List.drop_zero _ data] at hparse
    obtain ⟨hfits, hentry, hlater⟩ := parse_drop_eq_cons hparse
    rw [List.length_cons, start_cons_succ] at hwhole
    have hrest := ih hlater (by rw [List.length_drop]; omega)
    have hsame := @entryAt_append form data 0 (by rw [← hentry]; omega) more
    rw [← @List.drop_zero _ (data ++ more), parse_drop (by rw [List.length_append]; omega), hsame,
      ← hentry, List.drop_append_of_le_length (by omega), hrest]
    rfl

/-- A row of extensions is what stands in a block, with the places where they
start.  Each of them starts behind the one before, and its first four bytes are
there.  Only the body of the last one may be cut short, and what is left behind
it has not four bytes and counts for nothing. -/
structure Segmentation (form : Form) (data : Bytes) (extensions : List Extension)
    (start : Nat → Nat) : Prop where
  first : start 0 = 0
  next : ∀ i (h : i < extensions.length), start (i + 1) = start i + 4 + extensions[i].size
  fits : ∀ i, i < extensions.length → start i + 4 ≤ data.length
  stands : ∀ i (h : i < extensions.length), extensions[i] = entryAt form data (start i)
  whole : ∀ i, i + 1 < extensions.length → start (i + 1) ≤ data.length
  ends : data.length < start extensions.length + 4
  ignored : start extensions.length = data.length →
    ∀ rest, rest.length < 4 → parse form (data ++ rest) = extensions

theorem segmentation_parse (form : Form) (data : Bytes) :
    Segmentation form data (parse form data) (start (parse form data)) := by
  have hparse : parse form (data.drop 0) = parse form data := rfl
  constructor
  case first => exact start_zero _
  case next => exact fun i h => start_succ h
  case fits =>
    intro i h
    have hstands := (stands_of_parse_drop hparse h).1
    omega
  case stands =>
    intro i h
    have hstands := (stands_of_parse_drop hparse h).2
    rwa [Nat.zero_add] at hstands
  case whole =>
    intro i h
    have hstands := (stands_of_parse_drop hparse h).1
    omega
  case ends =>
    have hends := ends_of_parse_drop hparse
    omega
  case ignored =>
    intro hwhole rest hshort
    have hrest : parse form (rest.drop 0) = [] := parse_drop_of_short (by omega)
    rw [List.drop_zero] at hrest
    rw [parse_append rfl hwhole, hrest, List.append_nil]

/-! ## Blocks that were written -/

/-- An extension as it is written: a type and a body, each of a size that fits its
two bytes. -/
structure Item where
  type : Nat
  body : Bytes
  type_lt : type < 65536
  size_lt : body.length < 65536

namespace Item

/-- The bytes of an item. -/
def bytes (item : Item) : Bytes := frame item.type item.body

/-- An item as it is read back. -/
def read (form : Form) (item : Item) : Extension :=
  { type := item.type, size := item.body.length, content := contentOf form item.type item.body }

/-- The bytes of items, one after another. -/
def block (items : List Item) : Bytes := (items.map bytes).flatten

theorem encode_eq (item : Item) : encode item.type item.body = .ok item.bytes :=
  encode_of_lt item.type_lt item.size_lt

/-- Items are read back one by one, and then what follows them. -/
theorem parse_block_append (form : Form) (items : List Item) (more : Bytes) :
    parse form (block items ++ more) = items.map (read form) ++ parse form more := by
  induction items with
  | nil => rfl
  | cons item items ih =>
    show parse form (item.bytes ++ block items ++ more) = _
    rw [List.append_assoc, bytes, parse_frame_append form item.type_lt item.size_lt, ih]
    rfl

theorem parse_block (form : Form) (items : List Item) :
    parse form (block items) = items.map (read form) := by
  have hparse := parse_block_append form items []
  rw [parse_nil, List.append_nil, List.append_nil] at hparse
  exact hparse

/-- What is found by its type is the first item of that type. -/
theorem find?_map_read (form : Form) (items : List Item) (type : Int) :
    find? (items.map (read form)) type =
      (items.find? fun item => (item.type : Int) = type).map (read form) := by
  rw [find?, List.find?_map]
  rfl

end Item

/-- A key share between other extensions is read back with its key. -/
theorem parse_keyShare {form : Form} {key share : Bytes} (h : keyShare form key = .ok share)
    (before after : List Item) :
    parse form (Item.block before ++ (share ++ Item.block after)) =
      before.map (Item.read form) ++
        { type := keyShareType, size := shareSize form key.length,
          content := .keyShare x25519Group key.length key } :: after.map (Item.read form) := by
  obtain ⟨body, rfl, hbody, hsize, hcontent⟩ := eq_frame_of_keyShare h
  rw [Item.parse_block_append, parse_frame_append form (by decide) hbody, Item.parse_block,
    hcontent, hsize]

/-- Any block is read without a failure, extension by extension.

Reading takes no number that is not there, and where each extension stands follows
from the sizes of those before it.  A block that was written is read back item by
item, so that the first item of a type is found by that type.  And a key share
that was written in the same form, with any items around it, is read back as an
X25519 share of the whole key. -/
theorem parse_places_and_items (form : Form) :
    (∀ data, readFrom form data 0 = .ok (parse form data) ∧
      ∃ start, Segmentation form data (parse form data) start) ∧
    (∀ item : Item, encode item.type item.body = .ok item.bytes) ∧
    (∀ items : List Item, parse form (Item.block items) = items.map (Item.read form) ∧
      ∀ type : Int,
        find? (parse form (Item.block items)) type =
          (items.find? fun item => (item.type : Int) = type).map (Item.read form) ∧
        (find? (parse form (Item.block items)) type = none ↔
          ∀ item ∈ items, (item.type : Int) ≠ type)) ∧
    ∀ key share, keyShare form key = .ok share → ∀ before after : List Item,
      groupName x25519Group = "x25519" ∧
      parse form (Item.block before ++ (share ++ Item.block after)) =
        before.map (Item.read form) ++
          { type := keyShareType, size := shareSize form key.length,
            content := .keyShare x25519Group key.length key } :: after.map (Item.read form) := by
  refine ⟨?_, Item.encode_eq, ?_, ?_⟩
  · intro data
    exact ⟨readFrom_eq form data 0, _, segmentation_parse form data⟩
  · intro items
    refine ⟨Item.parse_block form items, fun type => ?_⟩
    rw [Item.parse_block, Item.find?_map_read]
    refine ⟨rfl, ?_⟩
    rw [Option.map_eq_none_iff, List.find?_eq_none]
    simp only [decide_eq_true_eq, ne_eq]
  · intro key share hshare before after
    exact ⟨rfl, parse_keyShare hshare before after⟩

/-- A block whose last extension is cut short, a block with two extensions of one
type, and an answered key share between two other extensions. -/
theorem parse_places_and_items_of_small_blocks :
    let mark : Item := ⟨42, [], by decide, by decide⟩
    let long : Item := ⟨7, [1, 2], by decide, by decide⟩
    let short : Item := ⟨7, [3], by decide, by decide⟩
    let share : Bytes := [0, 51, 0, 7, 0, 29, 0, 3, 5, 6, 7]
    readFrom .answer [0, 42, 0, 0, 0, 51, 0, 9, 0, 29] 0 =
        .ok [mark.read .answer, { type := 51, size := 9, content := .plain }] ∧
      find? (parse .answer (Item.block [mark, long, short])) 7 = some (long.read .answer) ∧
      find? (parse .answer (Item.block [mark, long, short])) 8 = none ∧
      keyShare .answer [5, 6, 7] = .ok share ∧
      parse .answer (Item.block [long] ++ (share ++ Item.block [mark])) =
        [long.read .answer, { type := 51, size := 7, content := .keyShare 29 3 [5, 6, 7] },
          mark.read .answer] := by
  intro mark long short share
  obtain ⟨hread, -, hitems, hshare⟩ := parse_places_and_items .answer
  have hfind := (hitems [mark, long, short]).2
  have hcut : parse .answer [0, 42, 0, 0, 0, 51, 0, 9, 0, 29] =
      [mark.read .answer, { type := 51, size := 9, content := .plain }] := by decide +kernel
  have hkey : keyShare .answer [5, 6, 7] = .ok share := by decide +kernel
  refine ⟨?_, (hfind 7).1, (hfind 8).2.2 (by decide), hkey, (hshare _ _ hkey [long] [mark]).2⟩
  rw [← hcut]
  exact (hread _).1

end Extension

end RecordLayer
