import Telemetry.Proofs.Wire.Stream

/-! What the error of the decoder says about a stream: it names the first field that is defective,
the place in it and what is wrong there. -/

namespace Telemetry.Wire

def VarintAt (bytes : List UInt8) (start stop : ℕ) (v : UInt64) : Prop :=
  ∃ digits, digits <+: bytes.drop start ∧ Varint.Spells digits v ∧ stop = start + digits.length

def TagAt (bytes : List UInt8) (start stop : ℕ) (field : UInt32) (code : ℕ) : Prop :=
  ∃ tag, VarintAt bytes start stop tag ∧ field.toNat = tag.toNat / 8 % 2 ^ 32 ∧
    code = tag.toNat % 8

inductive VarintDue (bytes : List UInt8) (start : ℕ) : ℕ → Prop
  | tag : start < bytes.length → VarintDue bytes start start
  | value {field : UInt32} {stop : ℕ} : TagAt bytes start stop field 0 → VarintDue bytes start stop
  | length {field : UInt32} {stop : ℕ} : TagAt bytes start stop field 2 → VarintDue bytes start stop

inductive DecodeError.Describes (bytes : List UInt8) (start : ℕ) : DecodeError → Prop
  | unknownWireType {field : UInt32} {code stop : ℕ} : TagAt bytes start stop field code →
      code = 3 ∨ code = 4 ∨ code = 6 ∨ code = 7 →
      Describes bytes start (.unknownWireType field code start)
  | truncatedVarint {offset : ℕ} : VarintDue bytes start offset →
      (bytes.drop offset).length < 10 → (∀ b ∈ bytes.drop offset, 128 ≤ b.toNat) →
      Describes bytes start (.truncatedVarint offset)
  | malformedVarint {offset : ℕ} : VarintDue bytes start offset →
      10 ≤ (bytes.drop offset).length → (∀ b ∈ (bytes.drop offset).take 10, 128 ≤ b.toNat) →
      Describes bytes start (.malformedVarint offset)
  | truncatedFixed32 {field : UInt32} {stop : ℕ} : TagAt bytes start stop field 5 →
      (bytes.drop stop).length < 4 → Describes bytes start (.truncatedFixed32 field stop)
  | truncatedFixed64 {field : UInt32} {stop : ℕ} : TagAt bytes start stop field 1 →
      (bytes.drop stop).length < 8 → Describes bytes start (.truncatedFixed64 field stop)
  | truncatedBytes {field : UInt32} {declared : UInt64} {middle stop remaining : ℕ} :
      TagAt bytes start middle field 2 → VarintAt bytes middle stop declared →
      stop + remaining = bytes.length → remaining < declared.toNat →
      Describes bytes start (.truncatedBytes field declared remaining stop)

def DecodeError.offset? : DecodeError → Option ℕ
  | malformedVarint offset => some offset
  | truncatedVarint offset => some offset
  | unknownWireType _ _ offset => some offset
  | truncatedFixed32 _ offset => some offset
  | truncatedFixed64 _ offset => some offset
  | truncatedBytes _ _ _ offset => some offset
  | nested .. => none
  | invalidUtf8 _ => none

namespace Varint

def Defect.Holds (room : ℕ) (bytes : List UInt8) : Defect → Prop
  | .unfinished => bytes.length < room ∧ ∀ b ∈ bytes, 128 ≤ b.toNat
  | .endless => room ≤ bytes.length ∧ ∀ b ∈ bytes.take room, 128 ≤ b.toNat

lemma Defect.holds_cons (room : ℕ) (b : UInt8) (bytes : List UInt8) (d : Defect) :
    d.Holds (room + 1) (b :: bytes) ↔ 128 ≤ b.toNat ∧ d.Holds room bytes := by
  cases d with
  | unfinished =>
    simp only [Holds, List.length_cons, Nat.add_lt_add_iff_right, List.forall_mem_cons]
    exact and_left_comm
  | endless =>
    simp only [Holds, List.length_cons, Nat.add_le_add_iff_right, List.take_succ_cons,
      List.forall_mem_cons]
    exact and_left_comm

lemma split_eq_error_iff (room : ℕ) (bytes : List UInt8) (d : Defect) :
    split room bytes = .error d ↔ d.Holds room bytes := by
  fun_induction split room bytes with
  | case1 bytes => cases d <;> simp [Defect.Holds]
  | case2 room => cases d <;> simp [Defect.Holds]
  | case3 room b bytes hb =>
    have hnot : ¬ 128 ≤ b.toNat := Nat.not_le.mpr (UInt8.lt_iff_toNat_lt.mp hb)
    simp [Defect.holds_cons, hnot]
  | case4 room b bytes hb ds r hs ih =>
    have hge : 128 ≤ b.toNat := Nat.not_lt.mp fun hlt => hb (UInt8.lt_iff_toNat_lt.mpr hlt)
    rw [Defect.holds_cons, ← ih, hs]
    simp [hge]
  | case5 room b bytes hb d' hs ih =>
    have hge : 128 ≤ b.toNat := Nat.not_lt.mp fun hlt => hb (UInt8.lt_iff_toNat_lt.mpr hlt)
    rw [Defect.holds_cons, ← ih, hs]
    simp [hge]

end Varint

lemma readVarint_eq_error_iff (offset : ℕ) (bytes : List UInt8) (e : DecodeError) :
    readVarint offset bytes = .error e ↔
      e = .truncatedVarint offset ∧ Varint.Defect.unfinished.Holds 10 bytes ∨
        e = .malformedVarint offset ∧ Varint.Defect.endless.Holds 10 bytes := by
  have hsplit := Varint.split_eq_error_iff Varint.maxLength bytes
  simp only [Varint.maxLength] at hsplit
  rw [← hsplit, ← hsplit]
  cases hs : Varint.split 10 bytes with
  | ok r => simp [readVarint, Varint.read, Varint.maxLength, hs]
  | error d => cases d <;> simp [readVarint, Varint.read, Varint.maxLength, hs, eq_comm]

lemma splitExact?_eq_none_iff (n : ℕ) (bytes : List UInt8) :
    splitExact? n bytes = none ↔ bytes.length < n := by
  simp [splitExact?, List.splitAt_eq]

section

variable {bytes : List UInt8} {start stop : ℕ}

lemma varintAt_of_read {offset n : ℕ} {rest : List UInt8} {v : UInt64}
    (h : readVarint offset (bytes.drop start) = .ok (v, n, rest)) :
    VarintAt bytes start (start + n) v ∧ rest = bytes.drop (start + n) := by
  obtain ⟨digits, hb, rfl, hv⟩ := readVarint_sound h
  refine ⟨⟨digits, ⟨rest, hb.symm⟩, hv, rfl⟩, ?_⟩
  rw [← List.drop_drop, hb, List.drop_left]

lemma VarintAt.read {v : UInt64} (h : VarintAt bytes start stop v) (offset : ℕ) :
    ∃ n, stop = start + n ∧
      readVarint offset (bytes.drop start) = .ok (v, n, bytes.drop stop) := by
  obtain ⟨digits, ⟨rest, hb⟩, hv, rfl⟩ := h
  refine ⟨digits.length, rfl, ?_⟩
  rw [← List.drop_drop, ← hb, List.drop_left, readVarint_append hv]

lemma VarintAt.stop_le {v : UInt64} (h : VarintAt bytes start stop v) :
    start < stop ∧ stop ≤ bytes.length := by
  obtain ⟨digits, hprefix, hv, rfl⟩ := h
  have hle := hprefix.length_le
  have hpos := hv.length_pos
  rw [List.length_drop] at hle
  omega

lemma TagAt.stop_le {field : UInt32} {code : ℕ} (h : TagAt bytes start stop field code) :
    start < stop ∧ stop ≤ bytes.length := by
  obtain ⟨tag, htag, -⟩ := h
  exact htag.stop_le

lemma tagAt_of_read {offset n : ℕ} {rest : List UInt8} {tag : UInt64}
    (h : readVarint offset (bytes.drop start) = .ok (tag, n, rest)) :
    TagAt bytes start (start + n) (tag >>> 3).toUInt32 (tag &&& 7).toNat :=
  ⟨tag, (varintAt_of_read h).1, Field.toNat_number tag, Field.toNat_code tag⟩

lemma TagAt.read {field : UInt32} {t : WireType} (h : TagAt bytes start stop field t.code)
    {e : DecodeError} (he : Payload.read field stop (bytes.drop stop) t = .error e) :
    Field.read start (bytes.drop start) = .error e := by
  obtain ⟨tag, htag, hfield, hcode⟩ := h
  obtain ⟨n, rfl, hread⟩ := htag.read start
  simp only [Field.read, hread, Field.number_eq hfield, Field.toNat_code, ← hcode,
    WireType.ofCode?_code, he]

lemma VarintDue.describes {offset : ℕ} (hdue : VarintDue bytes start offset) {e : DecodeError}
    (h : readVarint offset (bytes.drop offset) = .error e) : e.Describes bytes start := by
  rcases (readVarint_eq_error_iff _ _ _).mp h with ⟨rfl, hlen, hall⟩ | ⟨rfl, hlen, hall⟩
  · exact .truncatedVarint hdue hlen hall
  · exact .malformedVarint hdue hlen hall

lemma Payload.describes_of_read {field : UInt32} {t : WireType}
    (ht : TagAt bytes start stop field t.code) {e : DecodeError}
    (h : Payload.read field stop (bytes.drop stop) t = .error e) : e.Describes bytes start := by
  cases t with
  | varint =>
    simp only [Payload.read] at h
    split at h
    next => simp at h
    next e' he =>
      obtain rfl : e' = e := by simpa using h
      exact (VarintDue.value ht).describes he
  | fixed64 =>
    simp only [Payload.read] at h
    split at h
    next => simp at h
    next hs =>
      obtain rfl : DecodeError.truncatedFixed64 field stop = e := by simpa using h
      exact .truncatedFixed64 ht ((splitExact?_eq_none_iff _ _).mp hs)
  | bytes =>
    simp only [Payload.read] at h
    split at h
    next declared n rest hread =>
      obtain ⟨hlength, rfl⟩ := varintAt_of_read hread
      split at h
      next => simp at h
      next hs =>
        obtain rfl : DecodeError.truncatedBytes field declared (bytes.drop (stop + n)).length
          (stop + n) = e := by simpa using h
        have hle := hlength.stop_le.2
        refine .truncatedBytes ht hlength ?_ ((splitExact?_eq_none_iff _ _).mp hs)
        rw [List.length_drop]
        omega
    next e' he =>
      obtain rfl : e' = e := by simpa using h
      exact (VarintDue.length ht).describes he
  | fixed32 =>
    simp only [Payload.read] at h
    split at h
    next => simp at h
    next hs =>
      obtain rfl : DecodeError.truncatedFixed32 field stop = e := by simpa using h
      exact .truncatedFixed32 ht ((splitExact?_eq_none_iff _ _).mp hs)

lemma WireType.unknown_of_ofCode? {code : ℕ} (hlt : code < 8) (h : ofCode? code = none) :
    code = 3 ∨ code = 4 ∨ code = 6 ∨ code = 7 := by
  revert h
  decide +revert

lemma Field.describes_of_read (hstart : start < bytes.length) {e : DecodeError}
    (h : Field.read start (bytes.drop start) = .error e) : e.Describes bytes start := by
  unfold Field.read at h
  split at h
  next e' he =>
    obtain rfl : e' = e := by simpa using h
    exact (VarintDue.tag hstart).describes he
  next tag n rest hread =>
    have htag := tagAt_of_read hread
    obtain ⟨-, rfl⟩ := varintAt_of_read hread
    dsimp only at h
    split at h
    next hcode =>
      obtain rfl : .unknownWireType (tag >>> 3).toUInt32 (tag &&& 7).toNat start = e := by
        simpa using h
      have hlt : (tag &&& 7).toNat < 8 := by
        rw [toNat_code]
        exact Nat.mod_lt _ (by decide)
      exact .unknownWireType htag (WireType.unknown_of_ofCode? hlt hcode)
    next t hcode =>
      split at h
      next => simp at h
      next e' he =>
        obtain rfl : e' = e := by simpa using h
        rw [← WireType.code_of_ofCode? hcode] at htag
        exact Payload.describes_of_read htag he

lemma VarintDue.read {offset : ℕ} (hdue : VarintDue bytes start offset) {e : DecodeError}
    (he : readVarint offset (bytes.drop offset) = .error e) :
    Field.read start (bytes.drop start) = .error e := by
  cases hdue with
  | tag => simp only [Field.read, he]
  | value htag =>
    apply TagAt.read (t := .varint) htag
    simp only [Payload.read, he]
  | length htag =>
    apply TagAt.read (t := .bytes) htag
    simp only [Payload.read, he]

lemma Field.read_of_describes {e : DecodeError} (h : e.Describes bytes start) :
    Field.read start (bytes.drop start) = .error e := by
  cases h with
  | @unknownWireType field code stop htag hcode =>
    obtain ⟨tag, htag, hfield, rfl⟩ := htag
    obtain ⟨n, rfl, hread⟩ := htag.read start
    have hunknown : WireType.ofCode? (tag.toNat % 8) = none := by
      rcases hcode with hcode | hcode | hcode | hcode <;> rw [hcode] <;> rfl
    simp only [Field.read, hread, number_eq hfield, toNat_code, hunknown]
  | truncatedVarint hdue hlen hall =>
    exact hdue.read ((readVarint_eq_error_iff _ _ _).mpr (Or.inl ⟨rfl, hlen, hall⟩))
  | malformedVarint hdue hlen hall =>
    exact hdue.read ((readVarint_eq_error_iff _ _ _).mpr (Or.inr ⟨rfl, hlen, hall⟩))
  | truncatedFixed32 htag hlen =>
    apply TagAt.read (t := .fixed32) htag
    simp only [Payload.read, (splitExact?_eq_none_iff _ _).mpr hlen]
  | truncatedFixed64 htag hlen =>
    apply TagAt.read (t := .fixed64) htag
    simp only [Payload.read, (splitExact?_eq_none_iff _ _).mpr hlen]
  | @truncatedBytes field declared middle stop remaining htag hlength hremaining hlt =>
    obtain ⟨n, rfl, hread⟩ := hlength.read middle
    have hrest : (bytes.drop (middle + n)).length = remaining := by
      rw [List.length_drop]
      omega
    apply TagAt.read (t := .bytes) htag
    simp only [Payload.read, hread, (splitExact?_eq_none_iff _ _).mpr (hrest.trans_lt hlt), hrest]

lemma VarintDue.bounds {offset : ℕ} (h : VarintDue bytes start offset) :
    start ≤ offset ∧ offset ≤ bytes.length := by
  cases h with
  | tag hlt => exact ⟨le_rfl, hlt.le⟩
  | value htag => exact ⟨htag.stop_le.1.le, htag.stop_le.2⟩
  | length htag => exact ⟨htag.stop_le.1.le, htag.stop_le.2⟩

lemma TagAt.start_lt {field : UInt32} {code : ℕ} (h : TagAt bytes start stop field code) :
    start < bytes.length :=
  h.stop_le.1.trans_le h.stop_le.2

lemma VarintDue.start_lt {offset : ℕ} (h : VarintDue bytes start offset) :
    start < bytes.length := by
  cases h with
  | tag hlt => exact hlt
  | value htag => exact htag.start_lt
  | length htag => exact htag.start_lt

lemma DecodeError.Describes.start_lt {e : DecodeError} (h : e.Describes bytes start) :
    start < bytes.length := by
  cases h with
  | unknownWireType htag _ => exact htag.start_lt
  | truncatedVarint hdue _ _ => exact hdue.start_lt
  | malformedVarint hdue _ _ => exact hdue.start_lt
  | truncatedFixed32 htag _ => exact htag.start_lt
  | truncatedFixed64 htag _ => exact htag.start_lt
  | truncatedBytes htag _ _ _ => exact htag.start_lt

lemma DecodeError.Describes.exists_offset {e : DecodeError} (h : e.Describes bytes start) :
    ∃ offset, e.offset? = some offset ∧ start ≤ offset ∧ offset ≤ bytes.length := by
  cases h with
  | unknownWireType htag _ => exact ⟨_, rfl, le_rfl, htag.start_lt.le⟩
  | truncatedVarint hdue _ _ => exact ⟨_, rfl, hdue.bounds⟩
  | malformedVarint hdue _ _ => exact ⟨_, rfl, hdue.bounds⟩
  | truncatedFixed32 htag _ => exact ⟨_, rfl, htag.stop_le.1.le, htag.stop_le.2⟩
  | truncatedFixed64 htag _ => exact ⟨_, rfl, htag.stop_le.1.le, htag.stop_le.2⟩
  | truncatedBytes htag hlength _ _ =>
    exact ⟨_, rfl, htag.stop_le.1.le.trans hlength.stop_le.1.le, hlength.stop_le.2⟩

end

namespace Message

structure LongestDecoded (sound bytes : List UInt8) : Prop where
  isPrefix : sound <+: bytes
  decodes : ∃ m, decode sound = .ok m
  longest : ∀ p, p <+: bytes → (∃ m, decode p = .ok m) → p.length ≤ sound.length

variable {sound rest : List UInt8} {e : DecodeError}

lemma exists_read_of_decode {more : List UInt8} (hmore : more ≠ []) {m m' : Message}
    (hm : decode sound = .ok m) (hm' : decode (sound ++ more) = .ok m') :
    ∃ piece f behind, more = piece ++ behind ∧ Field.Encoding piece f := by
  obtain ⟨pieces, rfl, hpieces⟩ := (decode_eq_ok_iff sound m).mp hm
  rw [decode, decodeFrom_append hpieces, decodeFrom_eq_ok_iff] at hm'
  obtain ⟨pieces', fields, rfl, hfields, -⟩ := hm'
  cases hfields with
  | nil => exact absurd rfl hmore
  | cons hp _ => exact ⟨_, _, _, List.flatten_cons, hp⟩

lemma longestDecoded_of_read {m : Message} (hm : decode sound = .ok m)
    (hread : Field.read sound.length rest = .error e) : LongestDecoded sound (sound ++ rest) where
  isPrefix := List.prefix_append sound rest
  decodes := ⟨m, hm⟩
  longest := by
    intro p hp hdecodes
    obtain ⟨m', hm'⟩ := hdecodes
    by_contra hlonger
    have hle : sound.length ≤ p.length := (Nat.not_le.mp hlonger).le
    obtain ⟨more, rfl⟩ := List.prefix_of_prefix_length_le (List.prefix_append sound rest) hp hle
    have hmore : more ≠ [] := by
      rintro rfl
      exact hlonger (by simp)
    -- A field that could be read behind `sound` would have been read there.
    obtain ⟨piece, f, behind, rfl, hpiece⟩ := exists_read_of_decode hmore hm hm'
    obtain ⟨after, rfl⟩ := (List.prefix_append_right_inj sound).mp hp
    rw [List.append_assoc, Field.read_append hpiece] at hread
    simp at hread

lemma exists_describes {bytes : List UInt8} (h : decode bytes = .error e) :
    ∃ sound, LongestDecoded sound bytes ∧ e.Describes bytes sound.length := by
  obtain ⟨sound, rest, rfl, ⟨m, hm⟩, hrest, hread⟩ := (decode_eq_error_iff_read bytes e).mp h
  refine ⟨sound, longestDecoded_of_read hm hread, ?_⟩
  have hpos := List.length_pos_of_ne_nil hrest
  apply Field.describes_of_read
  · rw [List.length_append]
    omega
  · rwa [List.drop_left]

lemma exists_offset {bytes : List UInt8} (h : decode bytes = .error e) :
    ∃ offset, e.offset? = some offset := by
  obtain ⟨sound, -, hdescribes⟩ := exists_describes h
  obtain ⟨offset, hoffset, -⟩ := hdescribes.exists_offset
  exact ⟨offset, hoffset⟩

/-- If the decoder fails, its error describes the field at the end of the longest prefix that
decodes, and it points to a place in this field. It does not fail with any other error. -/
theorem decode_eq_error_iff (bytes : List UInt8) (e : DecodeError) :
    decode bytes = .error e ↔
      ∃ sound, LongestDecoded sound bytes ∧ e.Describes bytes sound.length ∧
        ∃ offset, e.offset? = some offset ∧ sound.length ≤ offset ∧ offset ≤ bytes.length := by
  constructor
  · intro h
    obtain ⟨sound, hlongest, hdescribes⟩ := exists_describes h
    exact ⟨sound, hlongest, hdescribes, hdescribes.exists_offset⟩
  · rintro ⟨sound, ⟨⟨rest, rfl⟩, hdecodes, -⟩, hdescribes, -⟩
    have hrest : rest ≠ [] := by
      rintro rfl
      have hlt := hdescribes.start_lt
      simp at hlt
    have hread := Field.read_of_describes hdescribes
    rw [List.drop_left] at hread
    exact (decode_eq_error_iff_read _ e).mpr ⟨sound, rest, rfl, hdecodes, hrest, hread⟩

end Message

end Telemetry.Wire
