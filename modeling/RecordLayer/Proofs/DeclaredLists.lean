import Mathlib.Tactic.Common
import RecordLayer.Proofs.ExtensionBlocks
import RecordLayer.Proofs.Overruns

/-!
# Lists and where they end

A ClientHello announces the size of its list of suites, and in its extensions the
sizes of the list of versions and of the list of key shares.  What is read of such
a list can reach beyond its announced end, so that it depends on bytes that are
not part of it.

* A list of suites is rounded up to whole suites.  Its last suite depends on the
  byte behind the list exactly if the announced size is odd (`suites_eq_iff`).
* `listEnd` is where the list of an extension ends by its announced size, and
  `reach` is how far the body is read.  `contentOf_eq_iff`: among bodies with the
  same list, those with the same bytes up to the reach are understood alike, and no
  others.
* `parse_fixed_iff`: a block of extensions is read from its lists alone exactly if
  no reach goes beyond its list.
* `read_from_lists_alone_iff` puts both together, and `read_beyond_lists` has an
  example of each way to go beyond a list.
-/

namespace RecordLayer

namespace Bytes

/-- Two byte strings of one length with the same bytes below a place. -/
def SameUpTo (place : Nat) (bytes other : Bytes) : Prop :=
  other.length = bytes.length ∧ other.take place = bytes.take place

theorem SameUpTo.refl (place : Nat) (bytes : Bytes) : SameUpTo place bytes bytes :=
  ⟨rfl, rfl⟩

/-- What is the same up to a place is the same up to an earlier one. -/
theorem take_eq_of_le {bytes other : Bytes} {place earlier : Nat}
    (h : other.take place = bytes.take place) (hle : earlier ≤ place) :
    other.take earlier = bytes.take earlier := by
  rw [← Nat.min_eq_left hle, ← List.take_take, h, List.take_take]

/-- The byte at a place can be changed without changing those before it. -/
theorem exists_sameUpTo {bytes : Bytes} {place : Nat} (h : place < bytes.length) :
    ∃ other, SameUpTo place bytes other ∧
      ∀ reach, place < reach → other.take reach ≠ bytes.take reach := by
  refine ⟨bytes.set place (bytes[place] + 1), ⟨List.length_set, ?_⟩, ?_⟩
  · rw [List.take_set_of_le (Nat.le_refl place)]
  · intro reach hreach hsame
    have hbyte := congrArg (fun taken : Bytes => taken[place]?) hsame
    simp only [List.getElem?_take_of_lt hreach, List.getElem?_set_self h,
      List.getElem?_eq_getElem h, Option.some.injEq] at hbyte
    exact absurd hbyte (by simp)

/-- What is read of a byte string up to a reach follows from the bytes below a
place exactly if the reach does not go beyond that place. -/
theorem forall_sameUpTo_iff {bytes : Bytes} {reach : Nat} (hreach : reach ≤ bytes.length)
    (place : Nat) :
    (∀ other, SameUpTo place bytes other → other.take reach = bytes.take reach) ↔
      reach ≤ place := by
  constructor
  · intro hsame
    by_contra hbeyond
    obtain ⟨other, hother, hchanged⟩ :=
      @exists_sameUpTo bytes place (Nat.lt_of_lt_of_le (Nat.not_le.1 hbeyond) hreach)
    exact hchanged reach (Nat.not_le.1 hbeyond) (hsame other hother)
  · intro hinside other hother
    exact take_eq_of_le hother.2 hinside

/-- The bytes below a place are the same exactly if each of them is. -/
theorem take_eq_iff {bytes other : Bytes} {place : Nat} :
    other.take place = bytes.take place ↔ ∀ i < place, other[i]? = bytes[i]? := by
  constructor
  · intro hsame i hi
    rw [← List.getElem?_take_of_lt hi, hsame, List.getElem?_take_of_lt hi]
  · intro hbytes
    refine List.ext_getElem? fun i => ?_
    rw [List.getElem?_take, List.getElem?_take]
    split_ifs with hi
    · exact hbytes i hi
    · rfl

/-- Behind the same bytes, one byte more is the same exactly if that byte is. -/
theorem take_succ_eq_iff {bytes other : Bytes} {place : Nat}
    (h : other.take place = bytes.take place) :
    other.take (place + 1) = bytes.take (place + 1) ↔ other[place]? = bytes[place]? := by
  constructor
  · intro hsame
    have hbyte := congrArg (fun taken : Bytes => taken[place]?) hsame
    simpa only [List.getElem?_take_of_lt (Nat.lt_succ_self place)] using hbyte
  · intro hbyte
    rw [List.take_add_one, List.take_add_one, h, hbyte]

/-- Behind the same bytes, as many bytes more are the same exactly if all of them are. -/
theorem take_drop_eq_iff {bytes other : Bytes} {place count : Nat}
    (h : other.take place = bytes.take place) :
    (other.drop place).take count = (bytes.drop place).take count ↔
      other.take (place + count) = bytes.take (place + count) := by
  rw [List.take_add, List.take_add, h, List.append_cancel_left_eq]

end Bytes

open Bytes (SameUpTo)

namespace Extension

/-! ## How far a row of numbers is read -/

theorem bigEndianValue_two_inj {high low high' low' : UInt8} :
    Bytes.bigEndianValue [high', low'] = Bytes.bigEndianValue [high, low] ↔
      high' = high ∧ low' = low := by
  constructor
  · intro hvalue
    have hbytes := congrArg (Bytes.bigEndian 2) hvalue
    rw [show (2 : Nat) = [high', low'].length from rfl, Bytes.bigEndian_bigEndianValue,
      show [high', low'].length = [high, low].length from rfl,
      Bytes.bigEndian_bigEndianValue] at hbytes
    simpa using hbytes
  · rintro ⟨rfl, rfl⟩
    rfl

/-- A number is read from its two bytes. -/
theorem word_inj {high low high' low' : UInt8} :
    256 * high'.toNat + low'.toNat = 256 * high.toNat + low.toNat ↔
      high' = high ∧ low' = low := by
  have hvalue : ∀ a b : UInt8, 256 * a.toNat + b.toNat = Bytes.bigEndianValue [a, b] := by
    intro a b
    simp [Bytes.bigEndianValue, Bytes.bigEndianFrom]
  rw [hvalue, hvalue, bigEndianValue_two_inj]

/-- A row of numbers is read from the bytes of those that are there, and from no
others. -/
theorem words_eq_iff {count : Nat} {bytes other : Bytes}
    (h : min count (other.length / 2) = min count (bytes.length / 2)) :
    words count other = words count bytes ↔
      other.take (2 * min count (bytes.length / 2)) =
        bytes.take (2 * min count (bytes.length / 2)) := by
  induction count generalizing bytes other with
  | zero => simp [words]
  | succ count ih =>
    by_cases hnumber : bytes.length < 2
    · have hnothing : ∀ short : Bytes, short.length < 2 → words (count + 1) short = [] := by
        intro short hshort
        match short with
        | [] => rfl
        | [_] => rfl
      have hzero : min (count + 1) (bytes.length / 2) = 0 := by omega
      rw [hnothing bytes hnumber, hnothing other (by omega), hzero]
      simp
    · obtain ⟨high, low, rest, rfl⟩ := Bytes.exists_two (Nat.not_lt.1 hnumber)
      obtain ⟨high', low', rest', rfl⟩ := Bytes.exists_two (by omega : 2 ≤ other.length)
      simp only [List.length_cons] at h
      have hreach : 2 * min (count + 1) ((high :: low :: rest).length / 2) =
          2 * min count (rest.length / 2) + 2 := by
        simp only [List.length_cons]
        omega
      rw [hreach, words, words, List.cons.injEq, word_inj, ih (by omega)]
      simp only [List.take_succ_cons, List.cons.injEq, and_assoc]

/-! ## How far the body of an extension is read -/

/-- Where the list in the body of an offered extension ends by its announced size.
A body without a list ends with itself. -/
def listEnd (type : Nat) (body : Bytes) : Nat :=
  if type = supportedVersionsType then 1 + (body.headD 0).toNat
  else if type = keyShareType then 2 + Bytes.bigEndianValue (body.take 2)
  else body.length

/-- How far versions are read: in whole ones, as far as they are there. -/
def versionsReach : Bytes → Nat
  | size :: rest => 1 + 2 * min ((size.toNat + 1) / 2) (rest.length / 2)
  | [] => 0

/-- How far the first key share behind the size of the list is read. -/
def shareReach (body : Bytes) : Nat :=
  if body.length < 6 then 0
  else min (6 + Bytes.bigEndianValue ((body.drop 4).take 2)) body.length

/-- How far the body of an offered extension is read. -/
def reach (type : Nat) (body : Bytes) : Nat :=
  if type = supportedVersionsType then versionsReach body
  else if type = keyShareType then shareReach body
  else 0

theorem versionsReach_le (body : Bytes) : versionsReach body ≤ body.length := by
  match body with
  | [] => exact Nat.le_refl 0
  | size :: rest =>
    simp only [versionsReach, List.length_cons]
    omega

theorem reach_le (type : Nat) (body : Bytes) : reach type body ≤ body.length := by
  unfold reach shareReach
  split_ifs
  · exact versionsReach_le body
  · exact Nat.zero_le _
  · exact Nat.min_le_right _ _
  · exact Nat.zero_le _

/-- Versions are read up to their reach. -/
theorem versionsOf_eq_iff {body other : Bytes}
    (h : SameUpTo (1 + (body.headD 0).toNat) body other) :
    versionsOf .offer other = versionsOf .offer body ↔
      other.take (versionsReach body) = body.take (versionsReach body) := by
  obtain ⟨hlength, hlist⟩ := h
  match body, other with
  | [], [] => simp
  | size :: rest, size' :: rest' =>
    have hrest : rest'.length = rest.length := by simpa using hlength
    rw [List.headD_cons, Nat.add_comm, List.take_succ_cons, List.take_succ_cons] at hlist
    obtain rfl := (List.cons.inj hlist).1
    rw [versionsReach, Nat.add_comm, List.take_succ_cons, List.take_succ_cons, List.cons.injEq,
      ← words_eq_iff (by rw [hrest])]
    simp [versionsOf]

/-- Fewer than four bytes hold no share. -/
theorem shareOf_of_short {entry : Bytes} (h : entry.length < 4) : shareOf entry = .plain := by
  match entry, h with
  | [], _ => rfl
  | [_], _ => rfl
  | [_, _], _ => rfl
  | [_, _, _], _ => rfl

/-- A share is read up to its reach, behind the size of the list. -/
theorem shareOf_eq_iff {body other : Bytes}
    (h : SameUpTo (2 + Bytes.bigEndianValue (body.take 2)) body other) :
    shareOf (other.drop 2) = shareOf (body.drop 2) ↔
      other.take (shareReach body) = body.take (shareReach body) := by
  obtain ⟨hlength, hlist⟩ := h
  unfold shareReach
  by_cases hshort : body.length < 6
  · rw [if_pos hshort, shareOf_of_short (by rw [List.length_drop]; omega),
      shareOf_of_short (by rw [List.length_drop]; omega)]
    simp
  · rw [if_neg hshort]
    obtain ⟨l₁, l₂, entry, rfl⟩ := Bytes.exists_two (by omega : 2 ≤ body.length)
    obtain ⟨l₁', l₂', entry', rfl⟩ := Bytes.exists_two (by omega : 2 ≤ other.length)
    rw [List.length_cons, List.length_cons] at hshort
    simp only [List.length_cons, Nat.add_right_cancel_iff] at hlength
    obtain ⟨g₁, g₂, n₁, n₂, rest, rfl⟩ := Bytes.exists_four (by omega : 4 ≤ entry.length)
    obtain ⟨g₁', g₂', n₁', n₂', rest', rfl⟩ := Bytes.exists_four (by omega : 4 ≤ entry'.length)
    have hrest : rest'.length = rest.length := by simpa using hlength
    have hhead : l₁' = l₁ ∧ l₂' = l₂ := by
      simpa using Bytes.take_eq_of_le hlist (Nat.le_add_right 2 _)
    obtain ⟨rfl, rfl⟩ := hhead
    have hreach : min (6 + Bytes.bigEndianValue [n₁, n₂])
        (l₁' :: l₂' :: g₁ :: g₂ :: n₁ :: n₂ :: rest).length =
          min (Bytes.bigEndianValue [n₁, n₂]) rest.length + 6 := by
      simp only [List.length_cons]
      omega
    show Content.keyShare (Bytes.bigEndianValue [g₁', g₂']) (Bytes.bigEndianValue [n₁', n₂'])
        (rest'.take (Bytes.bigEndianValue [n₁', n₂'])) =
      .keyShare (Bytes.bigEndianValue [g₁, g₂]) (Bytes.bigEndianValue [n₁, n₂])
        (rest.take (Bytes.bigEndianValue [n₁, n₂])) ↔
      _
    rw [show ((l₁' :: l₂' :: g₁ :: g₂ :: n₁ :: n₂ :: rest).drop 4).take 2 = [n₁, n₂] from rfl,
      hreach, Content.keyShare.injEq, bigEndianValue_two_inj, bigEndianValue_two_inj]
    simp only [List.take_succ_cons, List.cons.injEq, true_and]
    constructor
    · rintro ⟨⟨rfl, rfl⟩, ⟨rfl, rfl⟩, hkey⟩
      exact ⟨rfl, rfl, rfl, rfl, Bytes.take_eq_of_le hkey (Nat.min_le_left _ _)⟩
    · rintro ⟨rfl, rfl, rfl, rfl, hkey⟩
      refine ⟨⟨rfl, rfl⟩, ⟨rfl, rfl⟩, ?_⟩
      rw [List.take_eq_take_min, hrest, hkey, ← List.take_eq_take_min]

/-- Among the bodies with a certain list, those are understood alike that are the
same up to the reach. -/
theorem contentOf_eq_iff {type : Nat} {body other : Bytes}
    (h : SameUpTo (listEnd type body) body other) :
    contentOf .offer type other = contentOf .offer type body ↔
      other.take (reach type body) = body.take (reach type body) := by
  unfold listEnd at h
  unfold contentOf reach
  split_ifs with hversions hshare
  · rw [if_pos hversions] at h
    exact versionsOf_eq_iff h
  · rw [if_neg hversions, if_pos hshare] at h
    exact shareOf_eq_iff h
  · simp

/-- A body is understood from its list alone exactly if its reach does not go
beyond the list. -/
theorem contentOf_fixed_iff (type : Nat) (body : Bytes) :
    (∀ other, SameUpTo (listEnd type body) body other →
      contentOf .offer type other = contentOf .offer type body) ↔
      reach type body ≤ listEnd type body := by
  rw [← Bytes.forall_sameUpTo_iff (reach_le type body)]
  exact forall₂_congr fun other hother => contentOf_eq_iff hother

/-! ## Blocks that differ behind their lists -/

/-- The bytes of a block that are in the body of an extension, but behind its list. -/
inductive BehindList : Bytes → Nat → Prop where
  | here {t₁ t₂ n₁ n₂ : UInt8} {rest : Bytes} {place : Nat}
      (hlist : listEnd (Bytes.bigEndianValue [t₁, t₂])
        (rest.take (Bytes.bigEndianValue [n₁, n₂])) ≤ place)
      (hbody : place < Bytes.bigEndianValue [n₁, n₂]) :
      BehindList (t₁ :: t₂ :: n₁ :: n₂ :: rest) (place + 4)
  | later {t₁ t₂ n₁ n₂ : UInt8} {rest : Bytes} {place : Nat}
      (h : BehindList (rest.drop (Bytes.bigEndianValue [n₁, n₂])) place) :
      BehindList (t₁ :: t₂ :: n₁ :: n₂ :: rest) (place + Bytes.bigEndianValue [n₁, n₂] + 4)

/-- Two blocks of one length that differ behind the lists of extensions only. -/
def SameLists (data other : Bytes) : Prop :=
  other.length = data.length ∧ ∀ place, ¬BehindList data place → other[place]? = data[place]?

/-- An extension as it stands in a block, with its body as far as it is there. -/
structure Entry where
  type : Nat
  size : Nat
  body : Bytes
deriving DecidableEq, Repr

/-- What is understood of an entry. -/
def Entry.read (form : Form) (entry : Entry) : Extension :=
  { type := entry.type, size := entry.size, content := contentOf form entry.type entry.body }

/-- The extensions that stand in a block. -/
def entries : Bytes → List Entry
  | t₁ :: t₂ :: n₁ :: n₂ :: rest =>
    let size := Bytes.bigEndianValue [n₁, n₂]
    { type := Bytes.bigEndianValue [t₁, t₂], size, body := rest.take size } ::
      entries (rest.drop size)
  | _ => []
termination_by bytes => bytes.length
decreasing_by simp; omega

/-- A block is read entry by entry. -/
theorem parse_eq_map_entries (form : Form) (data : Bytes) :
    parse form data = (entries data).map (Entry.read form) := by
  fun_induction entries data with
  | case1 t₁ t₂ n₁ n₂ rest size ih =>
    rw [parse, List.map_cons, ← ih]
    rfl
  | case2 data hshort =>
    rw [parse]
    · rfl
    · exact hshort

section

variable {t₁ t₂ n₁ n₂ : UInt8} {rest : Bytes}

theorem behindList_cons_iff {place : Nat} :
    BehindList (t₁ :: t₂ :: n₁ :: n₂ :: rest) place ↔
      (∃ inner, place = inner + 4 ∧
        listEnd (Bytes.bigEndianValue [t₁, t₂]) (rest.take (Bytes.bigEndianValue [n₁, n₂])) ≤ inner ∧
        inner < Bytes.bigEndianValue [n₁, n₂]) ∨
      ∃ inner, place = inner + Bytes.bigEndianValue [n₁, n₂] + 4 ∧
        BehindList (rest.drop (Bytes.bigEndianValue [n₁, n₂])) inner := by
  constructor
  · intro h
    cases h with
    | here hlist hbody => exact .inl ⟨_, rfl, hlist, hbody⟩
    | later h => exact .inr ⟨_, rfl, h⟩
  · rintro (⟨inner, rfl, hlist, hbody⟩ | ⟨inner, rfl, h⟩)
    · exact .here hlist hbody
    · exact .later h

/-- A block with the same lists starts with the same type and size. -/
theorem exists_of_sameLists_cons {other : Bytes}
    (h : SameLists (t₁ :: t₂ :: n₁ :: n₂ :: rest) other) :
    ∃ rest', other = t₁ :: t₂ :: n₁ :: n₂ :: rest' := by
  obtain ⟨hlength, hsame⟩ := h
  obtain ⟨t₁', t₂', n₁', n₂', rest', rfl⟩ :=
    Bytes.exists_four (by rw [hlength]; simp : 4 ≤ other.length)
  have hhead : ∀ place < 4,
      (t₁' :: t₂' :: n₁' :: n₂' :: rest')[place]? = (t₁ :: t₂ :: n₁ :: n₂ :: rest)[place]? := by
    intro place hplace
    refine hsame place fun h => ?_
    rcases behindList_cons_iff.1 h with ⟨inner, rfl, -⟩ | ⟨inner, rfl, -⟩ <;> omega
  obtain rfl : t₁' = t₁ := by simpa using hhead 0 (by omega)
  obtain rfl : t₂' = t₂ := by simpa using hhead 1 (by omega)
  obtain rfl : n₁' = n₁ := by simpa using hhead 2 (by omega)
  obtain rfl : n₂' = n₂ := by simpa using hhead 3 (by omega)
  exact ⟨rest', rfl⟩

/-- Behind the same type and size a block with the same lists has the same list in its
first body, and then a block with the same lists. -/
theorem sameLists_cons_iff {rest' : Bytes} :
    SameLists (t₁ :: t₂ :: n₁ :: n₂ :: rest) (t₁ :: t₂ :: n₁ :: n₂ :: rest') ↔
      SameUpTo (listEnd (Bytes.bigEndianValue [t₁, t₂]) (rest.take (Bytes.bigEndianValue [n₁, n₂])))
        (rest.take (Bytes.bigEndianValue [n₁, n₂])) (rest'.take (Bytes.bigEndianValue [n₁, n₂])) ∧
      SameLists (rest.drop (Bytes.bigEndianValue [n₁, n₂]))
        (rest'.drop (Bytes.bigEndianValue [n₁, n₂])) := by
  have hbehind := fun place => @behindList_cons_iff t₁ t₂ n₁ n₂ rest place
  generalize Bytes.bigEndianValue [n₁, n₂] = size at hbehind ⊢
  generalize listEnd (Bytes.bigEndianValue [t₁, t₂]) (rest.take size) = last at hbehind ⊢
  constructor
  · rintro ⟨hlength, hsame⟩
    have hrest : rest'.length = rest.length := by simpa using hlength
    refine ⟨⟨by rw [List.length_take, List.length_take, hrest], ?_⟩,
      by rw [List.length_drop, List.length_drop, hrest], fun place hplace => ?_⟩
    · rw [Bytes.take_eq_iff]
      intro i hi
      rw [List.getElem?_take, List.getElem?_take]
      split_ifs with hinner
      · refine hsame (i + 4) fun h => ?_
        rcases (hbehind _).1 h with ⟨inner, hplace, hlast, -⟩ | ⟨inner, hplace, -⟩ <;> omega
      · rfl
    · rw [List.getElem?_drop, List.getElem?_drop]
      refine hsame (size + place + 4) fun h => ?_
      rcases (hbehind _).1 h with ⟨inner, hinner, -, hbody⟩ | ⟨inner, hinner, h⟩
      · omega
      · exact hplace (by rwa [show place = inner by omega])
  · rintro ⟨⟨hinside, hbody⟩, hbehindSize, hlater⟩
    rw [List.length_take, List.length_take] at hinside
    rw [List.length_drop, List.length_drop] at hbehindSize
    refine ⟨by simp only [List.length_cons]; omega, fun place hplace => ?_⟩
    match place with
    | 0 | 1 | 2 | 3 => rfl
    | inner + 4 =>
      show rest'[inner]? = rest[inner]?
      by_cases hinner : inner < size
      · have hlist : inner < last := by
          by_contra hlist
          exact hplace ((hbehind _).2 (.inl ⟨inner, rfl, Nat.not_lt.1 hlist, hinner⟩))
        have hbyte := Bytes.take_eq_iff.1 hbody inner hlist
        rwa [List.getElem?_take_of_lt hinner, List.getElem?_take_of_lt hinner] at hbyte
      · obtain ⟨later, rfl⟩ := Nat.exists_eq_add_of_le (Nat.not_lt.1 hinner)
        have hbyte := hlater later fun h =>
          hplace ((hbehind _).2 (.inr ⟨later, by omega, h⟩))
        rwa [List.getElem?_drop, List.getElem?_drop] at hbyte

end

/-- A body and a later block in place of others of the same sizes. -/
theorem take_append_drop_of_length {rest body later : Bytes} {size : Nat}
    (hbody : body.length = (rest.take size).length)
    (hlater : later.length = (rest.drop size).length) :
    (body ++ later).take size = body ∧ (body ++ later).drop size = later := by
  rw [List.length_take] at hbody
  rw [List.length_drop] at hlater
  by_cases hfits : size ≤ rest.length
  · have hsize : body.length = size := by omega
    rw [← hsize]
    exact ⟨List.take_left, List.drop_left⟩
  · -- a body that is cut short has nothing behind it
    have hnil : later = [] := List.eq_nil_of_length_eq_zero (by omega)
    rw [hnil, List.append_nil]
    exact ⟨List.take_of_length_le (by omega), List.drop_eq_nil_of_le (by omega)⟩

/-- A block is read from its lists alone exactly if no body is read beyond its list. -/
theorem parse_fixed_iff (data : Bytes) :
    (∀ other, SameLists data other → parse .offer other = parse .offer data) ↔
      ∀ entry ∈ entries data, reach entry.type entry.body ≤ listEnd entry.type entry.body := by
  fun_induction entries data with
  | case1 t₁ t₂ n₁ n₂ rest size ih =>
    rw [List.forall_mem_cons, ← ih, ← contentOf_fixed_iff]
    constructor
    · intro hfixed
      constructor
      · intro body hbody
        obtain ⟨htake, hdrop⟩ :=
          @take_append_drop_of_length rest body (rest.drop size) size hbody.1 rfl
        have hsame := hfixed (t₁ :: t₂ :: n₁ :: n₂ :: (body ++ rest.drop size))
          (sameLists_cons_iff.2 ⟨by rwa [htake], by rw [hdrop]; exact ⟨rfl, fun _ _ => rfl⟩⟩)
        rw [parse, parse] at hsame
        have hfirst := congrArg content (List.cons.inj hsame).1
        rwa [htake] at hfirst
      · intro later hlater
        obtain ⟨htake, hdrop⟩ :=
          @take_append_drop_of_length rest (rest.take size) later size rfl hlater.1
        have hsame := hfixed (t₁ :: t₂ :: n₁ :: n₂ :: (rest.take size ++ later))
          (sameLists_cons_iff.2 ⟨by rw [htake]; exact .refl _ _, by rwa [hdrop]⟩)
        rw [parse, parse] at hsame
        have hrest := (List.cons.inj hsame).2
        rwa [hdrop] at hrest
    · rintro ⟨hbody, hlater⟩ other hother
      obtain ⟨rest', rfl⟩ := exists_of_sameLists_cons hother
      obtain ⟨hsame, hrest⟩ := sameLists_cons_iff.1 hother
      rw [parse, parse, hbody _ hsame, hlater _ hrest]
  | case2 data hshort =>
    have hlength : data.length < 4 := by
      by_contra hlong
      obtain ⟨t₁, t₂, n₁, n₂, rest, hdata⟩ := Bytes.exists_four (Nat.not_lt.1 hlong)
      exact hshort t₁ t₂ n₁ n₂ rest hdata
    have hnothing : ∀ bytes : Bytes, bytes.length < 4 → parse .offer bytes = [] := by
      intro bytes hbytes
      rw [← @List.drop_zero _ bytes]
      exact parse_drop_of_short hbytes
    simp only [List.not_mem_nil, false_implies, implies_true, iff_true]
    intro other hother
    rw [hnothing data hlength, hnothing other (by rw [hother.1]; exact hlength)]

end Extension

namespace Message

open Extension (words)

/-- The announced size of the list of suites in a ClientHello. -/
def suitesSize (body : Bytes) : Nat :=
  Bytes.bigEndianValue ((body.drop (helloPlace body)).take 2)

/-- Where the list of suites in a ClientHello ends by its announced size. -/
def suitesEnd (body : Bytes) : Nat := helloPlace body + 2 + suitesSize body

/-- A body is read as a ClientHello with certain suites. -/
def Offers (body : Bytes) (suites : List Nat) : Prop :=
  ∃ random extensions,
    readContent clientHelloType body = .ok (.clientHello random suites extensions)

theorem eq_words_of_wordList {count : Nat} {bytes : Bytes} {numbers : List Nat}
    (h : wordList count bytes = .ok numbers) : numbers = words count bytes := by
  induction count generalizing bytes numbers with
  | zero => exact (Except.ok.inj h).symm
  | succ count ih =>
    match bytes with
    | [] => cases h
    | [_] => cases h
    | high :: low :: rest =>
      rw [wordList] at h
      cases hlater : wordList count rest with
      | error cause => rw [hlater] at h; cases h
      | ok later =>
        rw [hlater] at h
        rw [← Except.ok.inj h, words, ih hlater]

/-- The suites that are read are whole numbers behind the announced size. -/
theorem suites_of_readClientHello {body random : Bytes} {suites : List Nat}
    {extensions : Option (List Extension)}
    (h : readClientHello body = .ok (.clientHello random suites extensions)) :
    suites = words ((suitesSize body + 1) / 2) (body.drop (helloPlace body + 2)) := by
  unfold readClientHello at h
  rw [helloParts_eq] at h
  dsimp only at h
  rw [Bytes.word_eq] at h
  split_ifs at h with hword
  · cases h
  rw [Result.ok_bind, List.drop_drop] at h
  cases hwords : wordList ((suitesSize body + 1) / 2) (body.drop (helloPlace body + 2)) with
  | error cause =>
    rw [suitesSize] at hwords
    rw [hwords] at h
    cases h
  | ok numbers =>
    have hnumbers := eq_words_of_wordList hwords
    rw [suitesSize] at hwords
    rw [hwords, Result.ok_bind] at h
    split at h
    · cases h
    · cases h
      exact hnumbers

/-- A body offers suites exactly if it is long enough and does not overrun, and the
suites are those behind the announced size. -/
theorem offers_iff {body : Bytes} {suites : List Nat} :
    Offers body suites ↔
      35 ≤ body.length ∧ clientOverrun? body = none ∧
        suites = words ((suitesSize body + 1) / 2) (body.drop (helloPlace body + 2)) := by
  by_cases hlong : 35 ≤ body.length
  · have hcontent : readContent clientHelloType body = readClientHello body := by
      rw [readContent, (Bytes.hasAtLeast_iff 35 body).2 hlong]
      rfl
    constructor
    · rintro ⟨random, extensions, h⟩
      rw [hcontent] at h
      refine ⟨hlong, ?_, suites_of_readClientHello h⟩
      rw [← failure?_readClientHello, h]
      rfl
    · rintro ⟨-, hfits, hsuites⟩
      rw [← failure?_readClientHello] at hfits
      cases hread : readClientHello body with
      | error cause => rw [hread] at hfits; cases hfits
      | ok content =>
        obtain ⟨random, read, extensions, rfl⟩ := exists_of_readClientHello hread
        rw [suites_of_readClientHello hread, ← hsuites] at hread
        exact ⟨random, extensions, hcontent.trans hread⟩
  · have hshort : Bytes.hasAtLeast 35 body = false := by
      rw [Bool.eq_false_iff, ne_eq, Bytes.hasAtLeast_iff]
      exact hlong
    have hplain : readContent clientHelloType body = .ok .plain := by
      rw [readContent, hshort]
      rfl
    constructor
    · rintro ⟨random, extensions, h⟩
      rw [hplain] at h
      cases h
    · rintro ⟨h, -⟩
      exact absurd h hlong

/-- A ClientHello that does not overrun goes on behind its list, and has all of every
suite that starts in the list. -/
theorem suites_are_there {body : Bytes} (h : clientOverrun? body = none) :
    suitesEnd body < body.length ∧
      helloPlace body + 2 + 2 * ((suitesSize body + 1) / 2) ≤ body.length := by
  have hsize : Bytes.bigEndianValue ((body.drop (helloPlace body)).take 2) = suitesSize body := rfl
  rw [clientOverrun?, hsize] at h
  unfold suitesEnd
  split_ifs at h with hword hlist hbehind
  omega

/-- Bodies that are the same up to the list of suites have it at the same place. -/
theorem suites_at_same_place {body other : Bytes}
    (h : other.take (suitesEnd body) = body.take (suitesEnd body)) :
    helloPlace other = helloPlace body ∧ suitesSize other = suitesSize body := by
  have hplace : helloPlace other = helloPlace body := by
    have hbyte := Bytes.take_eq_iff.1 h 34 (by unfold suitesEnd helloPlace; omega)
    rw [helloPlace, helloPlace, List.getD_eq_getElem?_getD, List.getD_eq_getElem?_getD, hbyte]
  refine ⟨hplace, ?_⟩
  have hword := @Bytes.take_eq_of_le body other _ (helloPlace body + 2) h
    (by unfold suitesEnd; omega)
  rw [suitesSize, suitesSize, hplace, List.take_drop, List.take_drop, hword]

/-- Bodies that are the same up to their list offer the same suites exactly if the
list has whole suites, or the byte behind it is the same too. -/
theorem suites_eq_iff {body other : Bytes} {suites suites' : List Nat} (h : Offers body suites)
    (h' : Offers other suites') (hsame : other.take (suitesEnd body) = body.take (suitesEnd body)) :
    suites' = suites ↔
      suitesSize body % 2 = 0 ∨ other[suitesEnd body]? = body[suitesEnd body]? := by
  obtain ⟨-, hfits, rfl⟩ := offers_iff.1 h
  obtain ⟨-, hfits', rfl⟩ := offers_iff.1 h'
  obtain ⟨hplace, hsize⟩ := suites_at_same_place hsame
  have hthere := (suites_are_there hfits).2
  have hthere' := (suites_are_there hfits').2
  rw [hplace, hsize] at hthere' ⊢
  generalize hcount : (suitesSize body + 1) / 2 = count at hthere hthere' ⊢
  have henough : ∀ bytes : Bytes, helloPlace body + 2 + 2 * count ≤ bytes.length →
      min count ((bytes.drop (helloPlace body + 2)).length / 2) = count := by
    intro bytes hbytes
    rw [List.length_drop]
    omega
  have hfront : other.take (helloPlace body + 2) = body.take (helloPlace body + 2) :=
    Bytes.take_eq_of_le hsame (Nat.le_add_right _ _)
  rw [Extension.words_eq_iff (by rw [henough other hthere', henough body hthere]),
    henough body hthere, Bytes.take_drop_eq_iff hfront]
  rcases Nat.mod_two_eq_zero_or_one (suitesSize body) with heven | hodd
  · rw [show helloPlace body + 2 + 2 * count = suitesEnd body by unfold suitesEnd; omega]
    simp only [hsame, heven, true_or]
  · rw [show helloPlace body + 2 + 2 * count = suitesEnd body + 1 by unfold suitesEnd; omega,
      Bytes.take_succ_eq_iff hsame]
    simp only [hodd, Nat.one_ne_zero, false_or]

/-- The byte behind the list of suites can be changed, and the body is still read. -/
theorem exists_offers_changed {body : Bytes} {suites : List Nat} (h : Offers body suites) :
    ∃ other suites', Offers other suites' ∧
      other.take (suitesEnd body) = body.take (suitesEnd body) ∧
      other[suitesEnd body]? ≠ body[suitesEnd body]? := by
  obtain ⟨hlong, hfits, -⟩ := offers_iff.1 h
  obtain ⟨other, ⟨hlength, hsame⟩, hchanged⟩ := Bytes.exists_sameUpTo (suites_are_there hfits).1
  obtain ⟨hplace, hsize⟩ := suites_at_same_place hsame
  have hfits' : clientOverrun? other = none := by
    unfold suitesSize at hsize
    rw [hplace] at hsize
    simp only [clientOverrun?, hlength, hplace, hsize]
    exact hfits
  refine ⟨other, _, offers_iff.2 ⟨by rwa [hlength], hfits', rfl⟩, hsame, ?_⟩
  rw [ne_eq, ← Bytes.take_succ_eq_iff hsame]
  exact hchanged _ (Nat.lt_succ_self _)

/-- The suites of a ClientHello follow from its list alone exactly if the list has
whole suites. -/
theorem suites_fixed_iff {body : Bytes} {suites : List Nat} (h : Offers body suites) :
    (∀ other suites', Offers other suites' →
      other.take (suitesEnd body) = body.take (suitesEnd body) → suites' = suites) ↔
      suitesSize body % 2 = 0 := by
  constructor
  · intro hfixed
    obtain ⟨other, suites', hother, hsame, hchanged⟩ := exists_offers_changed h
    rcases (suites_eq_iff h hother hsame).1 (hfixed other suites' hother hsame) with heven | hbyte
    · exact heven
    · exact absurd hbyte hchanged
  · intro heven other suites' hother hsame
    exact (suites_eq_iff h hother hsame).2 (.inl heven)

open Extension (SameLists entries reach listEnd) in
/-- What is read of a list follows from the list exactly if it is not read beyond its
announced end.

Two ClientHellos that are the same up to the end of their list of suites offer the
same suites, unless the announced size is odd and the bytes behind the list differ;
so a list of odd size never decides its suites.  Two blocks of extensions that differ
behind lists of versions and lists of key shares only are read alike whenever no body
is read beyond its list, and where one is, some such block is read otherwise. -/
theorem read_from_lists_alone_iff (body : Bytes) (suites : List Nat) (data : Bytes) :
    (Offers body suites →
      (∀ other suites', Offers other suites' →
        other.take (suitesEnd body) = body.take (suitesEnd body) →
          (suites' = suites ↔
            suitesSize body % 2 = 0 ∨ other[suitesEnd body]? = body[suitesEnd body]?)) ∧
      ((∀ other suites', Offers other suites' →
        other.take (suitesEnd body) = body.take (suitesEnd body) → suites' = suites) ↔
          suitesSize body % 2 = 0)) ∧
    Extension.parse .offer data = (entries data).map (Extension.Entry.read .offer) ∧
    ((∀ other, SameLists data other →
      Extension.parse .offer other = Extension.parse .offer data) ↔
      ∀ entry ∈ entries data, reach entry.type entry.body ≤ listEnd entry.type entry.body) := by
  refine ⟨fun h => ?_, Extension.parse_eq_map_entries .offer data, Extension.parse_fixed_iff data⟩
  exact ⟨fun other suites' hother hsame => suites_eq_iff h hother hsame, suites_fixed_iff h⟩

/-- A list of two suites with any byte behind it, and a block with a version, a byte
behind the list of versions, and a key share that fills its list. -/
theorem read_from_lists_alone_of_whole_suites :
    let body : Bytes := List.replicate 35 0 ++ [0, 4, 0x13, 1, 0x13, 2, 0]
    let other : Bytes := List.replicate 35 0 ++ [0, 4, 0x13, 1, 0x13, 2, 7, 5]
    let data : Bytes := [0, 43, 0, 4, 2, 3, 4, 9, 0, 51, 0, 7, 0, 5, 0, 29, 0, 1, 8]
    (Offers body [0x1301, 0x1302] ∧ Offers other [0x1301, 0x1302] ∧
      ∀ suites', Offers other suites' → suites' = [0x1301, 0x1302]) ∧
    ∀ other, Extension.SameLists data other →
      Extension.parse .offer other =
        [{ type := 43, size := 4, content := .offeredVersions [0x0304] },
          { type := 51, size := 7, content := .keyShare 29 1 [8] }] := by
  intro body other data
  obtain ⟨hsuites, hread, hblocks⟩ := read_from_lists_alone_iff body [0x1301, 0x1302] data
  have hbody : Offers body [0x1301, 0x1302] :=
    ⟨List.replicate 32 0, none, by decide +kernel⟩
  have hother : Offers other [0x1301, 0x1302] :=
    ⟨List.replicate 32 0, none, by decide +kernel⟩
  have hsame : other.take (suitesEnd body) = body.take (suitesEnd body) := by decide +kernel
  refine ⟨⟨hbody, hother, fun suites' h => ?_⟩, fun other h => ?_⟩
  · exact ((hsuites hbody).1 other suites' h hsame).2 (.inl (by decide +kernel))
  · rw [hblocks.2 (by decide +kernel) other h, hread]
    decide +kernel

/-- A suite, a version and a key share that are read from bytes behind their lists: two
ClientHellos with half a suite and other bytes behind it, two blocks with half a
version and another byte behind it, and two with key shares behind an empty list. -/
theorem read_beyond_lists :
    let hello : Bytes := List.replicate 35 0 ++ [0, 1, 0x13]
    let versions : Bytes := [0, 43, 0, 3, 1, 3]
    let shares : Bytes := [0, 51, 0, 7, 0, 0]
    (suitesEnd (hello ++ [1, 0]) = hello.length ∧
      Offers (hello ++ [1, 0]) [0x1301] ∧ Offers (hello ++ [0]) [0x1300]) ∧
    (Extension.SameLists (versions ++ [4]) (versions ++ [5]) ∧
      Extension.parse .offer (versions ++ [4]) =
        [{ type := 43, size := 3, content := .offeredVersions [0x0304] }] ∧
      Extension.parse .offer (versions ++ [5]) =
        [{ type := 43, size := 3, content := .offeredVersions [0x0305] }]) ∧
    Extension.SameLists (shares ++ [0, 29, 0, 1, 8]) (shares ++ [0, 23, 0, 1, 9]) ∧
      Extension.parse .offer (shares ++ [0, 29, 0, 1, 8]) =
        [{ type := 51, size := 7, content := .keyShare 29 1 [8] }] ∧
      Extension.parse .offer (shares ++ [0, 23, 0, 1, 9]) =
        [{ type := 51, size := 7, content := .keyShare 23 1 [9] }] := by
  intro hello versions shares
  refine ⟨⟨by decide +kernel, ⟨List.replicate 32 0, none, by decide +kernel⟩,
    ⟨List.replicate 32 0, none, by decide +kernel⟩⟩, ⟨?_, by decide +kernel, by decide +kernel⟩,
    ?_, by decide +kernel, by decide +kernel⟩
  · exact Extension.sameLists_cons_iff.2 ⟨⟨by decide, by decide⟩, rfl, fun _ _ => rfl⟩
  · exact Extension.sameLists_cons_iff.2 ⟨⟨by decide, by decide⟩, rfl, fun _ _ => rfl⟩

end Message

end RecordLayer
