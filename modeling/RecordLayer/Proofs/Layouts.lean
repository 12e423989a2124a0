import Mathlib.Tactic.Common
import RecordLayer.Proofs.Messages

/-!
# Layouts of hello messages

A layout is a byte string with the length fields in it: data, contents that have
their length in front, and one thing behind another.  A length field may be too
narrow for what it covers; then only the low bytes of the length are in it.

* `Layout.tells_iff`: a length field tells how many bytes it covers exactly if that
  number fits.
* `Extension.keyShare_eq`, `Message.clientHello_eq` and `Message.serverHello_eq`:
  what is written is a layout, and otherwise a number does not fit its field.
* `Message.hellos_are_written_whole` says for which values the hello messages can
  be written, and that all their length fields tell what they cover.
-/

namespace RecordLayer

/-! ## Length fields -/

/-- How a byte string is put together. -/
inductive Layout where
  | plain (data : Bytes)
  /-- A content behind its length, in a field of `width` bytes. -/
  | sized (width : Nat) (content : Layout)
  | both (first second : Layout)

/-- Where a length field stands, how wide it is, and which bytes it covers. -/
structure LengthField where
  place : Nat
  width : Nat
  covered : Bytes

namespace LengthField

/-- A length field shows a number: it stands in its place, in front of the bytes
that the field covers. -/
def Shows (field : LengthField) (number : Nat) (bytes : Bytes) : Prop :=
  ∃ front length rest, bytes = front ++ (length ++ (field.covered ++ rest)) ∧
    front.length = field.place ∧ length.length = field.width ∧
    Bytes.bigEndianValue length = number

/-- A length field tells how many bytes it covers. -/
def Tells (field : LengthField) (bytes : Bytes) : Prop :=
  field.Shows field.covered.length bytes

end LengthField

namespace Layout

/-- The bytes of a layout. -/
def bytes : Layout → Bytes
  | plain data => data
  | sized width content => Bytes.bigEndian width content.bytes.length ++ content.bytes
  | both first second => first.bytes ++ second.bytes

/-- Parts one behind another. -/
def row : List Layout → Layout
  | [] => plain []
  | [last] => last
  | first :: later => both first (row later)

/-- The length fields of a layout that starts at a place. -/
def fieldsFrom : Nat → Layout → List LengthField
  | _, plain _ => []
  | place, sized width content =>
    ⟨place, width, content.bytes⟩ :: content.fieldsFrom (place + width)
  | place, both first second =>
    first.fieldsFrom place ++ second.fieldsFrom (place + first.bytes.length)

/-- The length fields of a layout. -/
def fields (layout : Layout) : List LengthField := layout.fieldsFrom 0

/-- Every length field of a layout tells how many bytes it covers. -/
def Tells (layout : Layout) : Prop := ∀ field ∈ layout.fields, field.Tells layout.bytes

/-- Every length field of a layout is wide enough for what it covers. -/
def Fits : Layout → Prop
  | plain _ => True
  | sized width content => content.bytes.length < Bytes.capacity width ∧ content.Fits
  | both first second => first.Fits ∧ second.Fits

variable {layout : Layout} {field : LengthField}

/-- Wherever a layout stands, each of its fields holds the low bytes of a length. -/
theorem shows_of_mem_fieldsFrom {place : Nat} (h : field ∈ layout.fieldsFrom place)
    {front : Bytes} (hfront : front.length = place) (rest : Bytes) :
    field.Shows (field.covered.length % Bytes.capacity field.width)
      (front ++ (layout.bytes ++ rest)) := by
  induction layout generalizing place front rest with
  | plain data => cases h
  | sized width content ih =>
    let length := Bytes.bigEndian width content.bytes.length
    have hlength : length.length = width := Bytes.length_bigEndian width content.bytes.length
    rcases List.mem_cons.1 h with rfl | h
    · exact ⟨front, length, rest, by rw [bytes, List.append_assoc], hfront, hlength,
        Bytes.bigEndianValue_bigEndian width content.bytes.length⟩
    · have hinner := @ih _ h (front ++ length)
        (by rw [List.length_append, hfront, hlength]) rest
      rw [bytes, List.append_assoc]
      rw [List.append_assoc] at hinner
      exact hinner
  | both first second ihfirst ihsecond =>
    rw [bytes, List.append_assoc]
    rcases List.mem_append.1 h with h | h
    · exact ihfirst h hfront (second.bytes ++ rest)
    · have hinner := @ihsecond _ h (front ++ first.bytes)
        (by rw [List.length_append, hfront]) rest
      rw [List.append_assoc] at hinner
      exact hinner

/-- Each field of a layout holds the low bytes of the length of what it covers. -/
theorem shows_of_mem (h : field ∈ layout.fields) :
    field.Shows (field.covered.length % Bytes.capacity field.width) layout.bytes := by
  have hshows := @shows_of_mem_fieldsFrom layout field 0 h [] rfl []
  rw [List.append_nil, List.nil_append] at hshows
  exact hshows

/-- A length field of a layout tells how many bytes it covers exactly if that
number fits in it. -/
theorem tells_iff (h : field ∈ layout.fields) :
    field.Tells layout.bytes ↔ field.covered.length < Bytes.capacity field.width := by
  constructor
  · intro htells
    obtain ⟨front, length, rest, -, -, hwidth, hvalue⟩ := htells
    rw [← hvalue, ← hwidth]
    exact Bytes.bigEndianValue_lt length
  · intro hfits
    have hshows := shows_of_mem h
    rw [Nat.mod_eq_of_lt hfits] at hshows
    exact hshows

theorem fits_iff (place : Nat) :
    layout.Fits ↔ ∀ field ∈ layout.fieldsFrom place,
      field.covered.length < Bytes.capacity field.width := by
  induction layout generalizing place with
  | plain data => simp [Fits, fieldsFrom]
  | sized width content ih => simp [Fits, fieldsFrom, ih (place + width)]
  | both first second ihfirst ihsecond =>
    rw [Fits, ihfirst place, ihsecond (place + first.bytes.length), fieldsFrom, List.forall_mem_append]

/-- The length fields of a layout tell what they cover exactly if they are wide
enough. -/
theorem tells_iff_fits : layout.Tells ↔ layout.Fits := by
  rw [fits_iff 0]
  constructor
  · intro htells field h
    exact (tells_iff h).1 (htells field h)
  · intro hfits field h
    exact (tells_iff h).2 (hfits field h)

end Layout

/-! ## Numbers that do not fit -/

/-- What succeeds with one value under a condition, and fails with one cause without
it. -/
theorem Result.written_iff {α : Type} {result : Result α} {fits : Prop} {value : α} {cause : Error}
    (hok : fits → result = .ok value) (herror : ¬fits → result = .error cause) :
    ((∃ a, result = .ok a) ↔ fits) ∧ (result = .error cause ↔ ¬fits) ∧
      ∀ a, result = .ok a → fits ∧ a = value := by
  by_cases hfits : fits
  · rw [hok hfits]
    refine ⟨⟨fun _ => hfits, fun _ => ⟨value, rfl⟩⟩, ⟨by rintro ⟨⟩, fun h => absurd hfits h⟩, ?_⟩
    intro a h
    exact ⟨hfits, (Except.ok.inj h).symm⟩
  · rw [herror hfits]
    refine ⟨⟨by rintro ⟨_, ⟨⟩⟩, fun h => absurd h hfits⟩, ⟨fun _ => hfits, fun _ => rfl⟩, ?_⟩
    rintro a ⟨⟩

namespace Bytes

theorem field_of_fits {width : Nat} {n : Int} (h : 0 ≤ n ∧ n < capacity width) :
    field width n = .ok (bigEndian width n.toNat) := if_pos h

theorem field_of_not_fits {width : Nat} {n : Int} (h : ¬(0 ≤ n ∧ n < capacity width)) :
    field width n = .error .badField := if_neg h

theorem vector_eq (width : Nat) (data : Bytes) :
    vector width data =
      if data.length < capacity width then .ok (bigEndian width data.length ++ data)
      else .error .badField := by
  split
  next hfits => exact vector_of_lt width hfits
  next hfits =>
    rw [vector, field_of_not_fits fun h => hfits (Int.ofNat_lt.1 h.2)]
    rfl

end Bytes

/-! ## Extensions -/

namespace Extension

/-- The layout of an extension. -/
def layout (type : Nat) (body : Layout) : Layout :=
  .both (.plain (Bytes.bigEndian 2 type)) (.sized 2 body)

/-- The layout of a share of an X25519 key. -/
def shareLayout (key : Bytes) : Layout :=
  .both (.plain (Bytes.bigEndian 2 x25519Group)) (.sized 2 (.plain key))

/-- The layout of a key share extension. -/
def keyShareLayout (key : Bytes) : Form → Layout
  | .offer => layout keyShareType (.sized 2 (shareLayout key))
  | .answer => layout keyShareType (shareLayout key)

/-- The layout of the version of TLS 1.3. -/
def versionsLayout : Form → Layout
  | .offer => layout supportedVersionsType (.sized 1 (.plain (Bytes.bigEndian 2 tls13)))
  | .answer => layout supportedVersionsType (.plain (Bytes.bigEndian 2 tls13))

/-- The layout of the mark of early data, if it is there. -/
def markLayout (earlyData : Bool) : Layout :=
  if earlyData then layout earlyDataType (.plain []) else .plain []

/-- The layout of the extensions of a hello message. -/
def helloLayout (key : Bytes) (form : Form) (earlyData : Bool) : Layout :=
  .row [keyShareLayout key form, versionsLayout form, markLayout earlyData]

theorem encode_eq_of_type {type : Nat} (htype : type < 65536) (body : Bytes) :
    encode type body =
      if body.length < 65536 then .ok (frame type body) else .error .badField := by
  rw [encode, Bytes.field_of_lt 2 htype, Result.ok_bind, Bytes.vector_eq, Bytes.capacity_two]
  split
  next => rfl
  next => rfl

theorem length_shareLayout (key : Bytes) : (shareLayout key).bytes.length = key.length + 4 := by
  simp only [shareLayout, Layout.bytes, List.length_append, Bytes.length_bigEndian]
  omega

/-- A key share is written as laid out, if its body fits. -/
theorem keyShare_eq (form : Form) (key : Bytes) :
    keyShare form key =
      if shareSize form key.length < 65536 then .ok (keyShareLayout key form).bytes
      else .error .badField := by
  have hshare := length_shareLayout key
  rw [keyShare, Bytes.vector_eq, Bytes.capacity_two]
  by_cases hkey : key.length < 65536
  case neg =>
    rw [if_neg hkey, if_neg (by cases form <;> simp only [shareSize] <;> omega)]
    rfl
  rw [if_pos hkey, Result.ok_bind]
  cases form with
  | answer =>
    show encode keyShareType (shareLayout key).bytes = _
    rw [encode_eq_of_type (by decide), hshare]
    rfl
  | offer =>
    show (Bytes.vector 2 (shareLayout key).bytes >>= fun list => encode keyShareType list) = _
    rw [Bytes.vector_eq, Bytes.capacity_two, hshare]
    by_cases hlist : key.length + 4 < 65536
    · rw [if_pos hlist, Result.ok_bind, encode_eq_of_type (by decide), List.length_append, hshare,
        Bytes.length_bigEndian, show 2 + (key.length + 4) = shareSize .offer key.length from
          Nat.add_comm 2 (key.length + 4)]
      split
      next => simp [frame, keyShareLayout, layout, Layout.bytes, hshare]
      next => rfl
    · rw [if_neg hlist, if_neg (by simp only [shareSize]; omega)]
      rfl

theorem fits_shareLayout (key : Bytes) : (shareLayout key).Fits ↔ key.length < 65536 := by
  simp [shareLayout, Layout.Fits, Layout.bytes, Bytes.capacity_two]

theorem length_keyShareLayout (key : Bytes) (form : Form) :
    (keyShareLayout key form).bytes.length = 4 + shareSize form key.length := by
  have hshare := length_shareLayout key
  cases form with
  | offer =>
    simp only [keyShareLayout, layout, Layout.bytes, List.length_append, Bytes.length_bigEndian,
      hshare, shareSize]
    omega
  | answer =>
    simp only [keyShareLayout, layout, Layout.bytes, List.length_append, Bytes.length_bigEndian,
      hshare, shareSize]
    omega

/-- The length fields of a key share extension fit if the outermost does. -/
theorem fits_keyShareLayout (key : Bytes) (form : Form) :
    (keyShareLayout key form).Fits ↔ shareSize form key.length < 65536 := by
  have hshare := length_shareLayout key
  cases form with
  | offer =>
    simp only [keyShareLayout, layout, Layout.Fits, Layout.bytes, List.length_append,
      Bytes.length_bigEndian, hshare, fits_shareLayout, Bytes.capacity_two, shareSize, true_and]
    omega
  | answer =>
    simp only [keyShareLayout, layout, Layout.Fits, hshare, fits_shareLayout, Bytes.capacity_two,
      shareSize, true_and]
    omega

/-- The number of bytes in the extensions of a hello message. -/
def helloSize (form : Form) (earlyData : Bool) (size : Nat) : Nat :=
  match form with
  | .offer => size + if earlyData then 21 else 17
  | .answer => size + if earlyData then 18 else 14

theorem length_helloLayout (key : Bytes) (form : Form) (earlyData : Bool) :
    (helloLayout key form earlyData).bytes.length = helloSize form earlyData key.length := by
  have hversions : (versionsLayout form).bytes.length = match form with
      | .offer => 7
      | .answer => 6 := by
    cases form <;> rfl
  have hmark : (markLayout earlyData).bytes.length = if earlyData then 4 else 0 := by
    cases earlyData <;> rfl
  show ((keyShareLayout key form).bytes ++
    ((versionsLayout form).bytes ++ (markLayout earlyData).bytes)).length = _
  rw [List.length_append, List.length_append, length_keyShareLayout, hversions, hmark]
  cases form with
  | offer =>
    show 4 + (key.length + 6) + (7 + _) = key.length + _
    split <;> omega
  | answer =>
    show 4 + (key.length + 4) + (6 + _) = key.length + _
    split <;> omega

/-- The length fields of the extensions of a hello message fit if that of its key
share does. -/
theorem fits_helloLayout (key : Bytes) (form : Form) (earlyData : Bool) :
    (helloLayout key form earlyData).Fits ↔ shareSize form key.length < 65536 := by
  have hversions : (versionsLayout form).Fits := by
    cases form <;> simp [versionsLayout, layout, Layout.Fits, Layout.bytes, Bytes.capacity]
  have hmark : (markLayout earlyData).Fits := by
    cases earlyData <;> simp [markLayout, layout, Layout.Fits, Layout.bytes, Bytes.capacity]
  simp [helloLayout, Layout.row, Layout.Fits, fits_keyShareLayout, hversions, hmark]

/-- The extensions of a hello message as they are written. -/
theorem bytes_helloLayout (key : Bytes) (form : Form) (early : Bool) :
    (helloLayout key form early).bytes =
      (keyShareLayout key form).bytes ++
        (supportedVersions form ++ if early then earlyData else []) := by
  have hversions : (versionsLayout form).bytes = supportedVersions form := by
    cases form <;> rfl
  have hmark : (markLayout early).bytes = if early then earlyData else [] := by
    cases early <;> rfl
  rw [← hversions, ← hmark]
  rfl

end Extension

/-! ## Hello messages -/

namespace Message

/-- The layout of a message. -/
def layout (type : UInt8) (body : Layout) : Layout := .both (.plain [type]) (.sized 3 body)

/-- The numbers of suites, one after another. -/
def suiteBytes (suites : List Int) : Bytes := suites.flatMap fun suite => Bytes.bigEndian 2 suite.toNat

theorem length_suiteBytes (suites : List Int) : (suiteBytes suites).length = 2 * suites.length := by
  induction suites with
  | nil => rfl
  | cons suite suites ih =>
    have hcons : suiteBytes (suite :: suites) = Bytes.bigEndian 2 suite.toNat ++ suiteBytes suites := rfl
    rw [hcons, List.length_append, Bytes.length_bigEndian, ih, List.length_cons]
    omega

/-- The layout of a ClientHello.  It has an empty session id and a list of one
compression method. -/
def clientHelloLayout (key : Bytes) (suites : List Int) (early : Bool) (random : Bytes) : Layout :=
  layout 1 (.row [.plain (Bytes.bigEndian 2 legacyVersion), .plain random, .sized 1 (.plain []),
    .sized 2 (.plain (suiteBytes suites)), .sized 1 (.plain [0]),
    .sized 2 (Extension.helloLayout key .offer early)])

/-- The layout of a ServerHello.  It has an empty session id. -/
def serverHelloLayout (key : Bytes) (suite : Int) (random : Bytes) : Layout :=
  layout 2 (.row [.plain (Bytes.bigEndian 2 legacyVersion), .plain random, .sized 1 (.plain []),
    .plain (Bytes.bigEndian 2 suite.toNat), .plain [0],
    .sized 2 (Extension.helloLayout key .answer false)])

theorem field_of_suite {suite : Int} (h : 0 ≤ suite ∧ suite ≤ 65535) :
    Bytes.field 2 suite = .ok (Bytes.bigEndian 2 suite.toNat) := by
  apply Bytes.field_of_fits
  rw [Bytes.capacity_two]
  omega

theorem field_of_not_suite {suite : Int} (h : ¬(0 ≤ suite ∧ suite ≤ 65535)) :
    Bytes.field 2 suite = .error .badField := by
  apply Bytes.field_of_not_fits
  rw [Bytes.capacity_two]
  omega

/-- The numbers of suites are written as long as each one fits. -/
theorem suiteList_eq (suites : List Int) :
    suiteList suites =
      if ∀ suite ∈ suites, 0 ≤ suite ∧ suite ≤ 65535 then .ok (suiteBytes suites)
      else .error .badField := by
  induction suites with
  | nil => rfl
  | cons suite suites ih =>
    rw [suiteList]
    by_cases hsuite : 0 ≤ suite ∧ suite ≤ 65535
    case neg =>
      rw [field_of_not_suite hsuite, if_neg fun h => hsuite (h suite List.mem_cons_self)]
      rfl
    rw [field_of_suite hsuite, Result.ok_bind, ih]
    by_cases hlater : ∀ suite ∈ suites, 0 ≤ suite ∧ suite ≤ 65535
    · have hall : ∀ number ∈ suite :: suites, 0 ≤ number ∧ number ≤ 65535 :=
        List.forall_mem_cons.2 ⟨hsuite, hlater⟩
      rw [if_pos hlater, if_pos hall]
      rfl
    · rw [if_neg hlater, if_neg fun h => hlater (List.forall_mem_cons.1 h).2]
      rfl

/-- What a ClientHello can be written from: suites of two bytes, and neither too
many of them nor too large a key. -/
structure ClientFits (key : Bytes) (suites : List Int) (early : Bool) : Prop where
  numbers : ∀ suite ∈ suites, 0 ≤ suite ∧ suite ≤ 65535
  count : suites.length ≤ 32767
  size : key.length ≤ if early then 65514 else 65518

/-- What a ServerHello can be written from: a suite of two bytes, and a key that is
not too large. -/
structure ServerFits (key : Bytes) (suite : Int) : Prop where
  number : 0 ≤ suite ∧ suite ≤ 65535
  size : key.length ≤ 65521

theorem helloSize_offer_lt_iff {early : Bool} {size : Nat} :
    Extension.helloSize .offer early size < 65536 ↔ size ≤ if early then 65514 else 65518 := by
  cases early with
  | true =>
    show size + 21 < 65536 ↔ size ≤ 65514
    omega
  | false =>
    show size + 17 < 65536 ↔ size ≤ 65518
    omega

theorem helloSize_answer_lt_iff {size : Nat} :
    Extension.helloSize .answer false size < 65536 ↔ size ≤ 65521 := by
  show size + 14 < 65536 ↔ size ≤ 65521
  omega

/-- The key share fits where all extensions do. -/
theorem shareSize_lt_of_helloSize_lt {form : Extension.Form} {early : Bool} {size : Nat}
    (h : Extension.helloSize form early size < 65536) : Extension.shareSize form size < 65536 := by
  cases form with
  | offer =>
    change size + (if early then 21 else 17) < 65536 at h
    show size + 6 < 65536
    split at h <;> omega
  | answer =>
    change size + (if early then 18 else 14) < 65536 at h
    show size + 4 < 65536
    split at h <;> omega

/-- The list of suites fits its field if there are not too many. -/
theorem vector_suiteBytes {suites : List Int} (h : suites.length ≤ 32767) :
    Bytes.vector 2 (suiteBytes suites) =
      .ok (Bytes.bigEndian 2 (suiteBytes suites).length ++ suiteBytes suites) := by
  apply Bytes.vector_of_lt
  rw [length_suiteBytes, Bytes.capacity_two]
  omega

/-- The extensions fit their field if the key is not too large. -/
theorem vector_helloLayout {key : Bytes} {form : Extension.Form} {early : Bool}
    (h : Extension.helloSize form early key.length < 65536) :
    let extensions := (Extension.helloLayout key form early).bytes
    Bytes.vector 2 extensions = .ok (Bytes.bigEndian 2 extensions.length ++ extensions) := by
  apply Bytes.vector_of_lt
  rw [Extension.length_helloLayout, Bytes.capacity_two]
  exact h

theorem clientHello_of_fits {key : Bytes} {suites : List Int} {early : Bool}
    (h : ClientFits key suites early) (random : Bytes) :
    clientHello key suites early random = .ok (clientHelloLayout key suites early random).bytes := by
  have hsize := helloSize_offer_lt_iff.2 h.size
  rw [clientHello, Extension.keyShare_eq, if_pos (shareSize_lt_of_helloSize_lt hsize), Result.ok_bind,
    suiteList_eq, if_pos h.numbers, Result.ok_bind, vector_suiteBytes h.count, Result.ok_bind,
    ← Extension.bytes_helloLayout, vector_helloLayout hsize, Result.ok_bind]
  rfl

theorem clientHello_of_not_fits {key : Bytes} {suites : List Int} {early : Bool}
    (h : ¬ClientFits key suites early) (random : Bytes) :
    clientHello key suites early random = .error .badField := by
  rw [clientHello, Extension.keyShare_eq]
  by_cases hshare : Extension.shareSize .offer key.length < 65536
  case neg =>
    rw [if_neg hshare]
    rfl
  rw [if_pos hshare, Result.ok_bind, suiteList_eq]
  by_cases hsuites : ∀ suite ∈ suites, 0 ≤ suite ∧ suite ≤ 65535
  case neg =>
    rw [if_neg hsuites]
    rfl
  rw [if_pos hsuites, Result.ok_bind]
  by_cases hcount : suites.length ≤ 32767
  case neg =>
    rw [Bytes.vector_eq, length_suiteBytes, Bytes.capacity_two, if_neg (by omega)]
    rfl
  rw [vector_suiteBytes hcount, Result.ok_bind, ← Extension.bytes_helloLayout, Bytes.vector_eq,
    Extension.length_helloLayout, Bytes.capacity_two,
    if_neg fun hsize => h ⟨hsuites, hcount, helloSize_offer_lt_iff.1 hsize⟩]
  rfl

theorem serverHello_of_fits {key : Bytes} {suite : Int} (h : ServerFits key suite) (random : Bytes) :
    serverHello key suite random = .ok (serverHelloLayout key suite random).bytes := by
  have hsize := helloSize_answer_lt_iff.2 h.size
  have hextensions := Extension.bytes_helloLayout key .answer false
  rw [if_neg Bool.false_ne_true, List.append_nil] at hextensions
  rw [serverHello, Extension.keyShare_eq, if_pos (shareSize_lt_of_helloSize_lt hsize), Result.ok_bind,
    field_of_suite h.number, Result.ok_bind, ← hextensions, vector_helloLayout hsize, Result.ok_bind]
  rfl

theorem serverHello_of_not_fits {key : Bytes} {suite : Int} (h : ¬ServerFits key suite)
    (random : Bytes) : serverHello key suite random = .error .badField := by
  have hextensions := Extension.bytes_helloLayout key .answer false
  rw [if_neg Bool.false_ne_true, List.append_nil] at hextensions
  rw [serverHello, Extension.keyShare_eq]
  by_cases hshare : Extension.shareSize .answer key.length < 65536
  case neg =>
    rw [if_neg hshare]
    rfl
  rw [if_pos hshare, Result.ok_bind]
  by_cases hsuite : 0 ≤ suite ∧ suite ≤ 65535
  case neg =>
    rw [field_of_not_suite hsuite]
    rfl
  rw [field_of_suite hsuite, Result.ok_bind, ← hextensions, Bytes.vector_eq,
    Extension.length_helloLayout, Bytes.capacity_two,
    if_neg fun hsize => h ⟨hsuite, helloSize_answer_lt_iff.1 hsize⟩]
  rfl

/-- All length fields of a ClientHello are wide enough. -/
theorem fits_clientHelloLayout {key random : Bytes} {suites : List Int} {early : Bool}
    (h : ClientFits key suites early) (hrandom : random.length = 32) :
    (clientHelloLayout key suites early random).Fits := by
  have hcount := h.count
  have hsize := helloSize_offer_lt_iff.2 h.size
  have hshare := shareSize_lt_of_helloSize_lt hsize
  simp only [clientHelloLayout, layout, Layout.row, Layout.Fits, Layout.bytes, List.length_append,
    List.length_cons, List.length_nil, Bytes.length_bigEndian, length_suiteBytes,
    Extension.length_helloLayout, Extension.fits_helloLayout, hrandom, hshare, hsize,
    Bytes.capacity_one, Bytes.capacity_two, Bytes.capacity_three, true_and, and_true]
  omega

/-- All length fields of a ServerHello are wide enough. -/
theorem fits_serverHelloLayout {key random : Bytes} {suite : Int} (h : ServerFits key suite)
    (hrandom : random.length = 32) : (serverHelloLayout key suite random).Fits := by
  have hsize := helloSize_answer_lt_iff.2 h.size
  have hshare := shareSize_lt_of_helloSize_lt hsize
  simp only [serverHelloLayout, layout, Layout.row, Layout.Fits, Layout.bytes, List.length_append,
    List.length_cons, List.length_nil, Bytes.length_bigEndian,
    Extension.length_helloLayout, Extension.fits_helloLayout, hrandom, hshare, hsize,
    Bytes.capacity_one, Bytes.capacity_two, Bytes.capacity_three, true_and, and_true]
  omega

/-- Exactly which hello messages can be written, and how their lengths come out.

A ClientHello can be written for up to 32767 suites, each a number of two bytes, and
a key of up to 65518 bytes, or 65514 with early data; a ServerHello for one such suite
and a key of up to 65521 bytes.  Otherwise a number does not fit its field.  With a
random of 32 bytes, the message has its layout, and all its length fields tell
exactly what they cover: the key, the list of shares, the list of versions, each
extension, all extensions, the suites and the body. -/
theorem hellos_are_written_whole :
    (∀ (key : Bytes) (suites : List Int) (early : Bool) (random : Bytes),
      let hello := clientHello key suites early random
      let layout := clientHelloLayout key suites early random
      ((∃ bytes, hello = .ok bytes) ↔ ClientFits key suites early) ∧
      (hello = .error .badField ↔ ¬ClientFits key suites early) ∧
      (random.length = 32 → ∀ bytes, hello = .ok bytes → bytes = layout.bytes ∧ layout.Tells)) ∧
    ∀ (key : Bytes) (suite : Int) (random : Bytes),
      let hello := serverHello key suite random
      let layout := serverHelloLayout key suite random
      ((∃ bytes, hello = .ok bytes) ↔ ServerFits key suite) ∧
      (hello = .error .badField ↔ ¬ServerFits key suite) ∧
      (random.length = 32 → ∀ bytes, hello = .ok bytes → bytes = layout.bytes ∧ layout.Tells) := by
  constructor
  · intro key suites early random hello layout
    have hwritten := @Result.written_iff _ hello (ClientFits key suites early) layout.bytes .badField
      (fun h => clientHello_of_fits h random) (fun h => clientHello_of_not_fits h random)
    refine ⟨hwritten.1, hwritten.2.1, fun hrandom bytes hbytes => ?_⟩
    obtain ⟨hfits, rfl⟩ := hwritten.2.2 bytes hbytes
    exact ⟨rfl, Layout.tells_iff_fits.2 (fits_clientHelloLayout hfits hrandom)⟩
  · intro key suite random hello layout
    have hwritten := @Result.written_iff _ hello (ServerFits key suite) layout.bytes .badField
      (fun h => serverHello_of_fits h random) (fun h => serverHello_of_not_fits h random)
    refine ⟨hwritten.1, hwritten.2.1, fun hrandom bytes hbytes => ?_⟩
    obtain ⟨hfits, rfl⟩ := hwritten.2.2 bytes hbytes
    exact ⟨rfl, Layout.tells_iff_fits.2 (fits_serverHelloLayout hfits hrandom)⟩

/-- The largest keys for which hello messages can be written, and a key of one byte
more. -/
theorem hellos_are_written_whole_up_to_a_limit :
    let random : Bytes := List.replicate 32 7
    let key (size : Nat) : Bytes := List.replicate size 9
    (∃ bytes, clientHello (key 65514) [0, 65535] true random = .ok bytes ∧
      bytes = (clientHelloLayout (key 65514) [0, 65535] true random).bytes ∧
      (clientHelloLayout (key 65514) [0, 65535] true random).Tells) ∧
    clientHello (key 65515) [0, 65535] true random = .error .badField ∧
    (∃ bytes, serverHello (key 65521) 65535 random = .ok bytes ∧
      bytes = (serverHelloLayout (key 65521) 65535 random).bytes ∧
      (serverHelloLayout (key 65521) 65535 random).Tells) ∧
    serverHello (key 65522) 65535 random = .error .badField := by
  intro random key
  have hkey : ∀ size, (key size).length = size := fun size => List.length_replicate
  obtain ⟨hclient, hserver⟩ := hellos_are_written_whole
  refine ⟨?_, ?_, ?_, ?_⟩
  · obtain ⟨hwritten, -, htells⟩ := hclient (key 65514) [0, 65535] true random
    obtain ⟨bytes, hbytes⟩ := hwritten.2 ⟨by decide, by decide, Nat.le_of_eq (hkey 65514)⟩
    exact ⟨bytes, hbytes, htells List.length_replicate bytes hbytes⟩
  · refine (hclient (key 65515) [0, 65535] true random).2.1.2 fun hfits => ?_
    have hsize := hfits.size
    rw [hkey, if_pos rfl] at hsize
    omega
  · obtain ⟨hwritten, -, htells⟩ := hserver (key 65521) 65535 random
    obtain ⟨bytes, hbytes⟩ := hwritten.2 ⟨by decide, Nat.le_of_eq (hkey 65521)⟩
    exact ⟨bytes, hbytes, htells List.length_replicate bytes hbytes⟩
  · refine (hserver (key 65522) 65535 random).2.1.2 fun hfits => ?_
    have hsize := hfits.size
    rw [hkey] at hsize
    omega

/-- The length fields of a ClientHello with early data: place, width and number. -/
example :
    (clientHelloLayout [8, 9] [0x1301] true (List.replicate 32 7)).fields.map
      (fun field => (field.place, field.width, field.covered.length)) =
        [(1, 3, 66), (38, 1, 0), (39, 2, 2), (43, 1, 1), (45, 2, 23), (49, 2, 8), (51, 2, 6),
          (55, 2, 2), (61, 2, 3), (63, 1, 2), (68, 2, 0)] := by
  decide +kernel

end Message

end RecordLayer
