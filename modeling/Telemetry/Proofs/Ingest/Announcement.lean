import Telemetry.Ingest.Basic
import Telemetry.Proofs.Json.Shape
import Telemetry.Proofs.Time.RoundTrip

namespace Telemetry

namespace Ingest

open Json Time

lemma countOfJson?_nat {n : ℕ} (hn : n < 2 ^ 64) : countOfJson? (.nat n) = some n := by
  rw [countOfJson?, Value.uint64?_nat hn, Option.map_some, UInt64.toNat_ofNat_of_lt' hn]

namespace Event

variable (e : Event)

def publication (topic : String) : Publication := ⟨topic, e.toJson.render⟩

def readBack : Event := { e with timestamp := e.timestamp.readBack }

/-- Whoever parses the text finds the event in it, under the names that its readers know. The time
is a text of its own; a leap second within a minute is read as the second that follows. -/
structure AnnouncedBy (payload : String) : Prop where
  document : ∃ time, parse payload = some (.object [(some "device_id", .string (some e.device)),
      (some "app_name", .string (some e.app)), (some "app_version", .string (some e.version)),
      (some "count", .number (.ofInt e.count)), (some "timestamp", .string (some time))]) ∧
    Instant.ofText? time = some e.timestamp.readBack
  read : e.count < 2 ^ 64 → (parse payload).bind ofJson? = some e.readBack

lemma legal_toJson : e.toJson.Legal := by
  simp only [toJson, Value.record, Value.text, Value.nat, Value.int, Instant.toJson, List.map_cons,
    List.map_nil, Value.Legal, legalMembers, Number.Numeral.legal_ofInt, and_self]

variable {e} in
lemma ofJson?_of_fields {v : Value} (hcount : e.count < 2 ^ 64)
    (hfields : v.fields? ["device_id", "app_name", "app_version", "count", "timestamp"] =
      some [some (.text e.device), some (.text e.app), some (.text e.version),
        some (.nat e.count), some e.timestamp.toJson]) :
    ofJson? v = some e.readBack := by
  rw [ofJson?, hfields]
  simp only [Value.text, Value.text?, countOfJson?_nat hcount, Instant.ofJson?_toJson]
  rfl

variable {e} in
lemma ofJson?_toJson (hcount : e.count < 2 ^ 64) : ofJson? e.toJson = some e.readBack := by
  refine ofJson?_of_fields hcount ?_
  rw [toJson, Value.fields?_record]
  simp [member?]

theorem announcedBy_publication (topic : String) : e.AnnouncedBy (e.publication topic).payload := by
  have hparse : parse (e.publication topic).payload = some e.toJson := parse_render e.legal_toJson
  refine ⟨⟨e.timestamp.text, hparse, e.timestamp.ofText?_text⟩, fun hcount => ?_⟩
  rw [hparse, Option.bind_some, ofJson?_toJson hcount]

end Event

def Report.event (device : Device) (report : Report) : Event :=
  ⟨device.id, device.app, device.version, report.stored, report.timestamp⟩

end Ingest

end Telemetry
