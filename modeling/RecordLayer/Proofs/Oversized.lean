import Mathlib.Tactic.Common
import RecordLayer.Proofs.Layouts
import RecordLayer.Proofs.Segments

/-!
# Messages too large for their size

The size of a message has three bytes, and so have the sizes in a Certificate.
Writing refuses a size that needs more than four bytes, and of a size that needs
four it keeps the low three.

* `Message.encode_of_packs` and `Message.encodeCertificate_of_lt`: what is written.
* `Message.exists_segment_of_frame`: a message that is too large starts with a
  message of the size that it shows, and the rest of its body stands behind that.
* `Message.parse_frame_iff`: it is read back whole exactly if its size fits.
* `Message.sizes_are_told_below_limit` puts this together.
-/

namespace RecordLayer.Message

/-! ## What is written -/

/-- What a message of any type can be written from: a type of one byte, and a body
whose size needs no more than four. -/
structure Packs (type : Int) (body : Bytes) : Prop where
  type : 0 ≤ type ∧ type ≤ 255
  size : body.length < 4294967296

theorem encode_of_packs {type : Int} {body : Bytes} (h : Packs type body) :
    encode type body = .ok (frame (UInt8.ofNat type.toNat) body) := by
  obtain ⟨htype, hsize⟩ := h
  have hcode : ((UInt8.ofNat type.toNat).toNat : Int) = type := by
    rw [UInt8.toNat_ofNat']
    omega
  have hwritten := encode_of_lt (UInt8.ofNat type.toNat) hsize
  rw [hcode] at hwritten
  exact hwritten

theorem encode_of_not_packs {type : Int} {body : Bytes} (h : ¬Packs type body) :
    encode type body = .error .badField := by
  rw [encode]
  by_cases htype : 0 ≤ type ∧ type < Bytes.capacity 1
  case neg =>
    rw [Bytes.field_of_not_fits htype]
    rfl
  have hsize : Bytes.capacity 4 ≤ body.length := by
    rw [Bytes.capacity_one] at htype
    rw [Bytes.capacity_four]
    by_contra hlt
    exact h ⟨by omega, by omega⟩
  rw [Bytes.field_of_fits htype, Result.ok_bind, Bytes.packed24_of_le hsize]
  rfl

/-- The layout of a Certificate: behind an empty context a list of one entry, which is
a certificate without extensions. -/
def certificateLayout (data : Bytes) : Layout :=
  layout 11 (.row [.plain [0], .sized 3 (.row [.sized 3 (.plain data), .plain [0, 0]])])

/-- The body of a Certificate. -/
def certificateBody (data : Bytes) : Bytes :=
  0 :: Bytes.vector24 (Bytes.vector24 data ++ [0, 0])

theorem bytes_certificateLayout (data : Bytes) :
    (certificateLayout data).bytes = frame 11 (certificateBody data) := rfl

theorem certificate_eq_bytes (data : Bytes) : certificate data = (certificateLayout data).bytes :=
  certificate_eq_frame data

theorem length_certificateBody (data : Bytes) : (certificateBody data).length = data.length + 9 := by
  rw [certificateBody, List.length_cons, Bytes.length_vector24, List.length_append,
    Bytes.length_vector24]
  rfl

theorem encodeCertificate_of_le {data : Bytes} (h : 4294967296 ≤ data.length + 9) :
    encodeCertificate data = .error .badField := by
  have hpacks : ¬Packs certificateType (certificateBody data) := by
    intro hpacks
    have hsize := hpacks.size
    rw [length_certificateBody] at hsize
    omega
  rw [encodeCertificate]
  by_cases hdata : data.length < Bytes.capacity 4
  case neg =>
    rw [Bytes.packed24_of_le (Nat.not_lt.1 hdata)]
    rfl
  rw [Bytes.packed24_of_lt hdata, Result.ok_bind]
  by_cases hlist : (Bytes.vector24 data ++ [0, 0]).length < Bytes.capacity 4
  case neg =>
    rw [Bytes.packed24_of_le (Nat.not_lt.1 hlist)]
    rfl
  rw [Bytes.packed24_of_lt hlist, Result.ok_bind]
  exact encode_of_not_packs hpacks

/-! ## Which sizes are told -/

theorem fits_layout_plain (type : UInt8) (body : Bytes) :
    (layout type (.plain body)).Fits ↔ body.length < 16777216 := by
  simp [layout, Layout.Fits, Layout.bytes, Bytes.capacity_three]

/-- The sizes in a Certificate fit if that of the message does. -/
theorem fits_certificateLayout (data : Bytes) :
    (certificateLayout data).Fits ↔ data.length + 9 < 16777216 := by
  simp only [certificateLayout, layout, Layout.row, Layout.Fits, Layout.bytes, List.length_append,
    List.length_cons, List.length_nil, Bytes.length_bigEndian, Bytes.capacity_three, true_and, and_true]
  omega

/-! ## What is read of it -/

/-- Sizes that are read have three bytes. -/
theorem size_lt_of_mem {bytes : Bytes} {message : Message} (h : message ∈ (readAll bytes).messages) :
    message.size < 16777216 := by
  fun_induction readAll bytes with
  | case1 => simp at h
  | case2 type n₁ n₂ n₃ rest size hsize content hcontent later ih =>
    rcases List.mem_cons.1 h with rfl | h
    · have hlt : Bytes.bigEndianValue [n₁, n₂, n₃] < Bytes.capacity 3 :=
        Bytes.bigEndianValue_lt [n₁, n₂, n₃]
      rw [Bytes.capacity_three] at hlt
      exact hlt
    · exact ih h
  | case3 => simp at h
  | case4 => simp at h

/-- Only a hello message can fail to be read. -/
theorem exists_content {type : Nat} (hclient : type ≠ clientHelloType)
    (hserver : type ≠ serverHelloType) (body : Bytes) :
    ∃ content, readContent type body = .ok content := by
  rw [readContent, if_neg (by simp [hclient]), if_neg (by simp [hserver])]
  split
  · cases helloExtensions .offer body with
    | none => exact ⟨_, rfl⟩
    | some extensions => exact ⟨_, rfl⟩
  · split
    · exact ⟨_, rfl⟩
    · exact ⟨_, rfl⟩

/-- A message of any size starts with one of the size that it shows, and the rest of
its body stands behind that. -/
theorem exists_segment_of_frame (type : UInt8) (body : Bytes) :
    ∃ segment : Segment, segment.type = type ∧ segment.body = body.take (body.length % 16777216) ∧
      frame type body = segment.bytes ++ body.drop (body.length % 16777216) := by
  have hle : body.length % 16777216 ≤ body.length := Nat.mod_le _ _
  have hlength : (body.take (body.length % 16777216)).length = body.length % 16777216 := by
    rw [List.length_take]
    omega
  have hsame : Bytes.bigEndian 3 (body.length % 16777216) = Bytes.bigEndian 3 body.length := by
    have hvalue := Bytes.bigEndianValue_bigEndian 3 body.length
    rw [Bytes.capacity_three] at hvalue
    have hback := Bytes.bigEndian_bigEndianValue (Bytes.bigEndian 3 body.length)
    rw [Bytes.length_bigEndian, hvalue] at hback
    exact hback
  refine ⟨⟨type, body.take (body.length % 16777216), ?_⟩, rfl, rfl, ?_⟩
  · rw [hlength]
    exact Nat.mod_lt _ (by decide)
  · show _ = type :: (Bytes.bigEndian 3 (body.take _).length ++ body.take _) ++ body.drop _
    rw [hlength, hsame, List.cons_append, List.append_assoc, List.take_append_drop]
    rfl

/-- A message that is no hello is read back whole exactly if its size fits. -/
theorem parse_frame_iff {type : UInt8} (hclient : type.toNat ≠ clientHelloType)
    (hserver : type.toNat ≠ serverHelloType) (body : Bytes) :
    (∃ content, parse (frame type body) =
      .ok [{ type := type.toNat, size := body.length, content }]) ↔ body.length < 16777216 := by
  constructor
  · intro h
    obtain ⟨content, hparse⟩ := h
    exact size_lt_of_mem (messages_of_parse hparse ▸ List.mem_singleton_self _)
  · intro hsize
    obtain ⟨content, hcontent⟩ := exists_content hclient hserver body
    exact ⟨content, parse_frame hsize hcontent⟩

/-! ## Messages and Certificates -/

/-- What can be written, and up to which size it tells its size.

A message can be written for a type of one byte and a body of less than 4294967296
bytes, and a Certificate if its body has so many; otherwise a number does not fit its
field.  What is written has its layout, and its length fields tell what they cover
exactly if the body has less than 16777216 bytes.  A larger body is taken for a
shorter one with something behind it, so that the message is not read back whole. -/
theorem sizes_are_told_below_limit (type : Int) (body data : Bytes) :
    let message := encode type body
    let shape := layout (UInt8.ofNat type.toNat) (.plain body)
    let shown := body.length % 16777216
    let certificate := encodeCertificate data
    (((∃ bytes, message = .ok bytes) ↔ Packs type body) ∧
      (message = .error .badField ↔ ¬Packs type body) ∧
      ∀ bytes, message = .ok bytes →
        bytes = shape.bytes ∧ bytes.length = 4 + body.length ∧
        (shape.Tells ↔ body.length < 16777216) ∧
        (∃ segment : Segment, segment.type.toNat = type.toNat ∧ segment.body = body.take shown ∧
          bytes = segment.bytes ++ body.drop shown) ∧
        (type ≠ clientHelloType → type ≠ serverHelloType →
          ((∃ content, parse bytes = .ok [{ type := type.toNat, size := body.length, content }]) ↔
            body.length < 16777216))) ∧
    ((∃ bytes, certificate = .ok bytes) ↔ data.length + 9 < 4294967296) ∧
      (certificate = .error .badField ↔ ¬data.length + 9 < 4294967296) ∧
      ∀ bytes, certificate = .ok bytes →
        bytes = (certificateLayout data).bytes ∧ bytes.length = 4 + (data.length + 9) ∧
        ((certificateLayout data).Tells ↔ data.length + 9 < 16777216) ∧
        ((∃ content, parse bytes =
            .ok [{ type := certificateType, size := data.length + 9, content }]) ↔
          data.length + 9 < 16777216) := by
  intro message shape shown certificate
  constructor
  · have hwritten := @Result.written_iff _ message (Packs type body) shape.bytes .badField
      (fun h => encode_of_packs h) (fun h => encode_of_not_packs h)
    refine ⟨hwritten.1, hwritten.2.1, fun bytes hbytes => ?_⟩
    obtain ⟨hpacks, rfl⟩ := hwritten.2.2 bytes hbytes
    have htype : (UInt8.ofNat type.toNat).toNat = type.toNat := by
      have hrange := hpacks.type
      rw [UInt8.toNat_ofNat']
      omega
    obtain ⟨segment, hsegment, hbody, hsplit⟩ :=
      exists_segment_of_frame (UInt8.ofNat type.toNat) body
    refine ⟨rfl, length_frame _ body, ?_, ⟨segment, by rw [hsegment, htype], hbody, hsplit⟩, ?_⟩
    · exact Layout.tells_iff_fits.trans (fits_layout_plain _ body)
    · intro hclient hserver
      have hrange := hpacks.type
      rw [← htype]
      exact parse_frame_iff (by omega) (by omega) body
  · have hwritten := @Result.written_iff _ certificate (data.length + 9 < 4294967296)
      (certificateLayout data).bytes .badField
      (fun h => certificate_eq_bytes data ▸ encodeCertificate_of_lt h)
      (fun h => encodeCertificate_of_le (Nat.not_lt.1 h))
    refine ⟨hwritten.1, hwritten.2.1, fun bytes hbytes => ?_⟩
    obtain ⟨-, rfl⟩ := hwritten.2.2 bytes hbytes
    have hbody := length_certificateBody data
    have hread := @parse_frame_iff 11 (by decide) (by decide) (certificateBody data)
    refine ⟨rfl, ?_, Layout.tells_iff_fits.trans (fits_certificateLayout data), ?_⟩
    · rw [bytes_certificateLayout, length_frame, hbody]
    · rw [hbody] at hread
      exact hread

/-- A message of an unknown type, and a Certificate. -/
theorem sizes_are_told_below_limit_of_small_messages :
    (layout 99 (.plain [1, 2, 3])).Tells ∧
      (∃ content, parse [99, 0, 0, 3, 1, 2, 3] = .ok [{ type := 99, size := 3, content }]) ∧
      (certificateLayout [5, 6]).Tells ∧
      ∃ content, parse [11, 0, 0, 11, 0, 0, 0, 7, 0, 0, 2, 5, 6, 0, 0] =
        .ok [{ type := certificateType, size := 11, content }] := by
  obtain ⟨hmessage, hcertificate⟩ := sizes_are_told_below_limit 99 [1, 2, 3] [5, 6]
  have hsmall := hmessage.2.2 [99, 0, 0, 3, 1, 2, 3] rfl
  have hshort := hcertificate.2.2 [11, 0, 0, 11, 0, 0, 0, 7, 0, 0, 2, 5, 6, 0, 0] rfl
  obtain ⟨-, -, htells, -, hparse⟩ := hsmall
  obtain ⟨-, -, htells', hparse'⟩ := hshort
  exact ⟨htells.2 (by decide), (hparse (by decide) (by decide)).2 (by decide),
    htells'.2 (by decide), hparse'.2 (by decide)⟩

/-- The size of a body of 16777216 bytes is written as zero, and the message is not
read back whole. -/
theorem size_of_large_body_is_dropped :
    ∃ bytes, encode certificateType (List.replicate 16777216 0) = .ok bytes ∧
      (bytes.drop 1).take 3 = [0, 0, 0] ∧ bytes.length = 4 + 16777216 ∧
      ¬∃ content, parse bytes = .ok [{ type := certificateType, size := 16777216, content }] := by
  have hlength : (List.replicate 16777216 (0 : UInt8)).length = 16777216 := List.length_replicate
  have hread := @parse_frame_iff 11 (by decide) (by decide) (List.replicate 16777216 0)
  generalize List.replicate 16777216 (0 : UInt8) = body at hlength hread
  rw [hlength] at hread
  refine ⟨frame 11 body, encode_of_packs ⟨by decide, by omega⟩, ?_, ?_, ?_⟩
  · show (Bytes.bigEndian 3 body.length ++ body).take 3 = _
    rw [List.take_left' (Bytes.length_bigEndian 3 body.length), hlength]
    decide
  · rw [length_frame, hlength]
  · exact fun h => absurd (hread.1 h) (by decide)

end RecordLayer.Message
