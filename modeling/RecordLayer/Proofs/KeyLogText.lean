import Mathlib.Tactic.Common
import RecordLayer.KeyLog

/-!
# The text of a key log can be read back

A line of a key log is a label, the client random and a secret with a space
between them, and every line is followed by a newline.  `KeyLog.readText?`
goes the other way: it splits a text at the newlines and each line at the
spaces, and reads the two fields after the label as hexadecimal.

* `Bytes.unhex?_hex`: hexadecimal text has only one reading.
* `KeyLog.splitOn_textOf`, `KeyLog.Entry.splitOn_line`: the splits find the
  lines and the fields, because no field has a space or a newline in it.
* `KeyLog.readText?_textOf`: from the text of some lines exactly these are
  read.
-/

namespace RecordLayer

/-! ## Hexadecimal text -/

namespace Bytes

/-- The number that a hexadecimal digit stands for. -/
def digit? (c : Char) : Option Nat :=
  (List.range 16).find? fun n => hexDigit n == c

/-- The bytes that hexadecimal text stands for. -/
def unhex? : List Char → Option Bytes
  | [] => some []
  | [_] => none
  | high :: low :: rest =>
    match digit? high, digit? low, unhex? rest with
    | some high, some low, some bytes => some (UInt8.ofNat (16 * high + low) :: bytes)
    | _, _, _ => none

theorem digit?_hexDigit {n : Nat} (h : n < 16) : digit? (hexDigit n) = some n := by
  have hall : ∀ n ∈ List.range 16, digit? (hexDigit n) = some n := by decide
  exact hall n (List.mem_range.2 h)

theorem hexDigit_plain {n : Nat} (h : n < 16) : hexDigit n ≠ ' ' ∧ hexDigit n ≠ '\n' := by
  have hall : ∀ n ∈ List.range 16, hexDigit n ≠ ' ' ∧ hexDigit n ≠ '\n' := by decide
  exact hall n (List.mem_range.2 h)

theorem toList_hex_cons (b : UInt8) (bytes : Bytes) :
    (hex (b :: bytes)).toList =
      hexDigit (b.toNat / 16) :: hexDigit (b.toNat % 16) :: (hex bytes).toList := by
  simp only [hex, List.flatMap_cons, String.toList_ofList]
  rfl

/-- Hexadecimal text stands for the bytes that it was made from. -/
theorem unhex?_hex (bytes : Bytes) : unhex? bytes.hex.toList = some bytes := by
  induction bytes with
  | nil => rfl
  | cons b bytes ih =>
    have hb := b.toNat_lt
    have hbyte : UInt8.ofNat (16 * (b.toNat / 16) + b.toNat % 16) = b := by
      rw [Nat.div_add_mod, UInt8.ofNat_toNat]
    rw [toList_hex_cons, unhex?, digit?_hexDigit (by omega), digit?_hexDigit (by omega), ih]
    simp only [hbyte]

/-- Hexadecimal text has no space and no newline in it. -/
theorem plain_hex (bytes : Bytes) : ' ' ∉ bytes.hex.toList ∧ '\n' ∉ bytes.hex.toList := by
  induction bytes with
  | nil => decide
  | cons b bytes ih =>
    have hb := b.toNat_lt
    obtain ⟨hhigh, hhigh'⟩ := hexDigit_plain (show b.toNat / 16 < 16 by omega)
    obtain ⟨hlow, hlow'⟩ := hexDigit_plain (show b.toNat % 16 < 16 by omega)
    rw [toList_hex_cons]
    simp only [List.mem_cons, not_or]
    exact ⟨⟨hhigh.symm, hlow.symm, ih.1⟩, ⟨hhigh'.symm, hlow'.symm, ih.2⟩⟩

end Bytes

/-! ## Lines -/

namespace KeyLog

namespace Entry

/-- The label has no space and no newline in it. -/
def Plain (entry : Entry) : Prop :=
  ' ' ∉ entry.label.toList ∧ '\n' ∉ entry.label.toList

/-- The line of three fields, if it is one. -/
def ofFields? : List (List Char) → Option Entry
  | [label, random, secret] =>
    match Bytes.unhex? random, Bytes.unhex? secret with
    | some random, some secret => some { label := String.ofList label, random, secret }
    | _, _ => none
  | _ => none

theorem toList_line (entry : Entry) :
    entry.line.toList =
      [' '].intercalate [entry.label.toList, entry.random.hex.toList, entry.secret.hex.toList] := by
  simp [line, List.intercalate, List.intersperse]

/-- The spaces of a line stand between its fields. -/
theorem splitOn_line {entry : Entry} (h : entry.Plain) :
    entry.line.toList.splitOn ' ' =
      [entry.label.toList, entry.random.hex.toList, entry.secret.hex.toList] := by
  rw [toList_line]
  apply List.splitOn_intercalate
  · intro field hfield
    simp only [List.mem_cons, List.not_mem_nil, or_false] at hfield
    rcases hfield with rfl | rfl | rfl
    · exact h.1
    · exact (Bytes.plain_hex _).1
    · exact (Bytes.plain_hex _).1
  · exact List.cons_ne_nil _ _

/-- A line is read from its fields. -/
theorem ofFields?_line {entry : Entry} (h : entry.Plain) :
    ofFields? (entry.line.toList.splitOn ' ') = some entry := by
  rw [splitOn_line h]
  simp only [ofFields?, Bytes.unhex?_hex, String.ofList_toList]

/-- A line has no newline in it. -/
theorem newline_not_mem_line {entry : Entry} (h : entry.Plain) : '\n' ∉ entry.line.toList := by
  simp only [line, String.toList_append, List.mem_append, not_or]
  exact ⟨⟨⟨⟨h.2, by decide⟩, (Bytes.plain_hex _).2⟩, by decide⟩, (Bytes.plain_hex _).2⟩

end Entry

/-! ## Texts -/

/-- The lines of a text, if each of them is a line of a key log that ends with a newline. -/
def readText? (text : String) : Option (List Entry) :=
  match (text.toList.splitOn '\n').reverse with
  | [] :: lines => lines.reverse.mapM fun line => Entry.ofFields? (line.splitOn ' ')
  | _ => none

theorem toList_textOf (entries : List Entry) :
    (textOf entries).toList = entries.flatMap fun entry => entry.line.toList ++ ['\n'] := by
  have hfold : ∀ (entries : List Entry) (out : String),
      (entries.foldl (fun out entry => out ++ entry.line ++ "\n") out).toList =
        out.toList ++ entries.flatMap fun entry => entry.line.toList ++ ['\n'] := by
    intro entries
    induction entries with
    | nil => intro out; simp
    | cons entry entries ih =>
      intro out
      rw [List.foldl_cons, ih, List.flatMap_cons]
      simp
  exact hfold entries ""

/-- The text is one line after another. -/
theorem textOf_eq_join (entries : List Entry) :
    textOf entries = String.join (entries.map fun entry => entry.line ++ "\n") := by
  induction entries with
  | nil => rfl
  | cons entry entries ih =>
    rw [List.map_cons, String.join_cons, ← ih, ← String.toList_inj, String.toList_append,
      toList_textOf, toList_textOf, List.flatMap_cons, String.toList_append]
    rfl

/-- The newlines of a text stand after its lines. -/
theorem splitOn_textOf {entries : List Entry} (h : ∀ entry ∈ entries, entry.Plain) :
    (textOf entries).toList.splitOn '\n' =
      entries.map (fun entry => entry.line.toList) ++ [[]] := by
  rw [toList_textOf, List.splitOn_eq_splitOnP]
  induction entries with
  | nil => rfl
  | cons entry entries ih =>
    obtain ⟨hentry, hentries⟩ := List.forall_mem_cons.1 h
    have hline : ∀ c ∈ entry.line.toList, (c == '\n') = false := by
      intro c hc
      exact beq_false_of_ne fun heq => Entry.newline_not_mem_line hentry (heq ▸ hc)
    rw [List.flatMap_cons, List.append_assoc, List.singleton_append,
      List.splitOnP_append_cons_of_forall_mem hline '\n' rfl, ih hentries]
    rfl

/-- Lines with plain labels are what is read from their text. -/
theorem readText?_textOf {entries : List Entry} (h : ∀ entry ∈ entries, entry.Plain) :
    readText? (textOf entries) = some entries := by
  have hlines : (entries.map fun entry => entry.line.toList).mapM
      (fun line => Entry.ofFields? (line.splitOn ' ')) = some entries := by
    induction entries with
    | nil => rfl
    | cons entry entries ih =>
      obtain ⟨hentry, hentries⟩ := List.forall_mem_cons.1 h
      rw [List.map_cons, List.mapM_cons, Entry.ofFields?_line hentry, ih hentries]
      rfl
  rw [readText?, splitOn_textOf h, List.reverse_append, List.reverse_singleton,
    List.singleton_append]
  dsimp only
  rw [List.reverse_reverse, hlines]

end KeyLog

end RecordLayer
