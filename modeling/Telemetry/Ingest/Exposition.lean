import Telemetry.Ingest.Metrics

namespace Telemetry.Ingest

open Number

structure Sample where
  ending : String
  label : Option (String × String)
  amount : Binary64

structure Family where
  name : String
  help : String
  type : String
  samples : List Sample

def escapeLabel (value : String) : String :=
  String.ofList (value.toList.flatMap fun c =>
    if c = '\\' then ['\\', '\\']
    else if c = '\n' then ['\\', 'n']
    else if c = '"' then ['\\', '"']
    else [c])

def Sample.line (family : String) (s : Sample) : String :=
  let label := match s.label with
    | some (name, value) => "\x7b" ++ name ++ "=\"" ++ escapeLabel value ++ "\"\x7d"
    | none => ""
  family ++ s.ending ++ label ++ " " ++ s.amount.text ++ "\n"

def Family.text (f : Family) : String :=
  if f.samples.isEmpty then ""
  else
    "# HELP " ++ f.name ++ " " ++ f.help ++ "\n# TYPE " ++ f.name ++ " " ++ f.type ++ "\n" ++
      String.join (f.samples.map (Sample.line f.name))

def ofCount (n : UInt64) : Binary64 := .ofInt n.toNat

def counter (name help : String) (n : UInt64) : Family :=
  ⟨name, help, "counter", [⟨"", none, ofCount n⟩]⟩

def labelled (name help label : String) (t : Table String UInt64) : Family :=
  ⟨name, help, "counter", (t.entries.mergeSort fun e e' => e.1 ≤ e'.1).map fun e =>
    ⟨"", some (label, e.1), ofCount e.2⟩⟩

def histogram (name help : String) (h : Histogram) : Family :=
  ⟨name, help, "histogram",
    (Histogram.cumulative 0 h.counts).map
      (fun e => ⟨"_bucket", some ("le", (Binary64.ofInt e.1).text), ofCount e.2⟩) ++
    [⟨"_bucket", some ("le", "+Inf"), ofCount h.count⟩, ⟨"_sum", none, h.sum⟩,
      ⟨"_count", none, ofCount h.count⟩]⟩

def Metrics.families (m : Metrics) : List Family :=
  [histogram "hmon_batch_size_bytes" "Size of received measurement batches" m.batchSize,
    counter "hmon_batches_decoded_total" "Measurement batches decoded successfully"
      m.batchesDecoded,
    labelled "hmon_decode_errors_total"
      "Measurement batches rejected by the wire decoder, by error kind" "kind" m.decodeErrors,
    labelled "hmon_measurements_skipped_total"
      "Measurements dropped during resolution, by reason" "reason" m.skipped,
    counter "hmon_measurements_stored_total" "Telemetry records accepted by the sink" m.stored]

def Metrics.text (m : Metrics) : String :=
  String.join (m.families.map Family.text)

structure Registry where
  names : List String

def Registry.register? (r : Registry) (m : Metrics) : Option Registry :=
  let names := m.families.map (·.name)
  if names.any r.names.contains then none else some ⟨r.names ++ names⟩

end Telemetry.Ingest
