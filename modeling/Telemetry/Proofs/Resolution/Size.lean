import Telemetry.Proofs.Measurement.Envelope
import Telemetry.Proofs.Resolution.Classes

namespace Telemetry

open Schema Time

namespace Wire

def Payload.size (p : Payload) : ℕ :=
  (p.bytes?.map List.length).getD 0

lemma Payload.Encoding.size_lt {code : ℕ} {body : List UInt8} {p : Payload}
    (h : Encoding code body p) : p.size < body.length := by
  cases h with
  | varint hv => exact hv.length_pos
  | fixed64 hraw _ | fixed32 hraw _ =>
    rw [hraw]
    exact Nat.zero_lt_succ _
  | @bytes digits raw _ hv _ =>
    rw [List.length_append]
    exact Nat.lt_add_of_pos_left hv.length_pos

lemma Field.Encoding.size_le {piece : List UInt8} {f : Field} (h : Encoding piece f) :
    2 + f.payload.size ≤ piece.length := by
  cases h with
  | intro htag _ hpayload =>
    have hdigits := htag.length_pos
    have hbody := hpayload.size_lt
    rw [List.length_append]
    omega

namespace Message

def size (m : Message) : ℕ :=
  (m.map fun f => 2 + f.payload.size).sum

lemma size_le_of_decode {bytes : List UInt8} {m : Message} (h : decode bytes = .ok m) :
    size m ≤ bytes.length := by
  obtain ⟨pieces, rfl, hpieces⟩ := (decode_eq_ok_iff bytes m).mp h
  clear h
  induction hpieces with
  | nil => exact Nat.le_refl 0
  | cons hp _ ih =>
    rw [List.flatten_cons, List.length_append]
    exact Nat.add_le_add hp.size_le ih

lemma size_eq (m : Message) :
    size m = 2 * m.length + ((m.filterMap (·.payload.bytes?)).map List.length).sum := by
  induction m with
  | nil => rfl
  | cons f m ih =>
    have hcons : size (f :: m) = 2 + f.payload.size + size m := rfl
    rw [hcons, ih, List.length_cons, List.filterMap_cons, Payload.size]
    cases f.payload.bytes? with
    | none => simp; omega
    | some raw => simp; omega

end Message

lemma Field.exists_of_measurement? {f : Field} {x : Measurement} (h : f.measurement? = some x) :
    ∃ raw inner, f.payload = .bytes raw ∧ Message.decode raw = .ok inner ∧
      x = Measurement.ofMessage inner := by
  rw [Field.measurement?, Option.ite_none_right_eq_some] at h
  obtain ⟨inner, hinner, rfl⟩ := Option.map_eq_some_iff.mp h.2
  obtain ⟨r, hr, hok⟩ := Option.bind_eq_some_iff.mp hinner
  obtain ⟨raw, hraw, rfl⟩ := Option.map_eq_some_iff.mp hr
  cases hp : f.payload with
  | bytes raw' =>
    obtain rfl : raw' = raw := by simpa [hp, Payload.bytes?] using hraw
    cases hd : Message.decode raw' with
    | error e => simp [hd, Except.toOption] at hok
    | ok m =>
      obtain rfl : m = inner := by simpa [hd, Except.toOption] using hok
      exact ⟨raw', m, rfl, hd, rfl⟩
  | _ => simp [hp, Payload.bytes?] at hraw

end Wire

namespace Measurement

open Wire

lemma length_pos_of_value {m : Message} (h : (ofMessage m).value.isSome) : 0 < m.length := by
  -- A value comes from a field of its own, so the message that embeds it is not empty.
  cases m with
  | nil => simp [ofMessage, slot?] at h
  | cons f m => exact Nat.zero_lt_succ _

lemma two_le_size {f : Field} {x : Measurement} (h : f.measurement? = some x)
    (hx : x.value.isSome) : 2 ≤ f.payload.size := by
  obtain ⟨raw, inner, hp, hinner, rfl⟩ := f.exists_of_measurement? h
  have hfields := length_pos_of_value hx
  have hsize := Message.size_le_of_decode hinner
  rw [Message.size_eq] at hsize
  rw [hp]
  change 2 ≤ raw.length
  omega

lemma size_filterMap_measurement? (m : Message) :
    2 * (m.filterMap Field.measurement?).length +
      2 * (m.filterMap Field.measurement?).countP (·.value.isSome) ≤ Message.size m := by
  induction m with
  | nil => exact Nat.le_refl 0
  | cons f m ih =>
    have hcons : Message.size (f :: m) = 2 + f.payload.size + Message.size m := rfl
    rw [hcons, List.filterMap_cons]
    cases hf : f.measurement? with
    | none => simp only; omega
    | some x =>
      simp only [List.length_cons, List.countP_cons]
      split
      next hx =>
        have hsize := two_le_size hf hx
        omega
      next => omega

lemma size_le_of_decodeAll {bytes : List UInt8} {ms : List Measurement}
    (h : decodeAll bytes = .ok ms) :
    2 * ms.length + 2 * ms.countP (·.value.isSome) ≤ bytes.length := by
  obtain ⟨m, -, hm, -, -⟩ := (decodeAll_eq_ok_iff _ _).mp h
  rw [eq_of_decodeAll hm h]
  exact (size_filterMap_measurement? m).trans (Message.size_le_of_decode hm)

end Measurement

namespace Resolution

open Measurement

variable {lookup : Lookup} {fallback : Instant} {bytes : List UInt8} {ms : List Measurement}

lemma value_of_reading {m : Measurement} (h : (outcome lookup m).reading?.isSome) :
    m.value.isSome := by
  obtain ⟨c, hfalls⟩ := falls_outcome lookup m
  generalize outcome lookup m = o at h hfalls
  cases hfalls with
  | reading _ _ hv _ => exact hv ▸ rfl
  | _ => cases h

lemma readings_length_le (lookup : Lookup) (fallback : Instant) (ms : List Measurement) :
    (resolve lookup fallback ms).readings.length ≤ ms.countP (·.value.isSome) := by
  rw [resolve, List.length_filterMap_eq_countP]
  exact List.countP_mono_left fun m _ => value_of_reading

lemma size_le_of_resolve (hms : decodeAll bytes = .ok ms) (lookup : Lookup) (fallback : Instant) :
    4 * (resolve lookup fallback ms).readings.length +
      2 * (resolve lookup fallback ms).skipped.length +
      2 * ms.countP (NamedTimestamp lookup ·) ≤ bytes.length := by
  have htotal := readings_add_skipped lookup fallback ms
  have hreadings := readings_length_le lookup fallback ms
  have hsize := size_le_of_decodeAll hms
  omega

end Resolution

end Telemetry
