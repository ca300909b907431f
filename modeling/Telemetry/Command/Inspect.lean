import Telemetry.Command.Capture
import Telemetry.Wire.View

namespace Telemetry.Command

open Number Text Wire

def maxDepth : Nat := 8

def lowerHex (width n : Nat) : String :=
  String.ofList ((Nat.toDigits 16 n).leftpad width '0')

def embedded? : Payload → Option (List UInt8 × Message)
  | .bytes raw =>
    if raw.isEmpty then none
    else
      match Message.decode raw with
      | .ok m => some (raw, m)
      | .error _ => none
  | _ => none

def describe : Payload → String
  | .varint raw => toString raw ++ " (sint " ++ toString (Zigzag.decode64 raw) ++ ")"
  | .fixed32 raw =>
    "0x" ++ lowerHex 8 raw.toNat ++ " (float " ++ (Binary32.mk raw).text ++ ")"
  | .fixed64 raw =>
    "0x" ++ lowerHex 16 raw.toNat ++ " (double " ++ (Binary64.mk raw).text ++ ")"
  | .bytes raw =>
    match Utf8.decode raw with
    | .ok text => quoted text
    | .error _ => "bytes " ++ Hex.encode raw

def label (f : Field) : String :=
  "#" ++ toString f.number ++ " " ++ f.wireType.name ++ ": "

/-- One line for each field, those of embedded messages below the field that holds them and indented
by two blanks more. `levels` levels of them are opened. -/
def outline (indent : String) : Nat → Message → List String
  | 0, m => m.map fun f => indent ++ label f ++ describe f.payload
  | levels + 1, m => m.flatMap fun f =>
    match embedded? f.payload with
    | none => [indent ++ label f ++ describe f.payload]
    | some (raw, inner) =>
      (indent ++ label f ++ "message (" ++ toString raw.length ++ " bytes)") ::
        outline (indent ++ "  ") levels inner

def unlines (lines : List String) : String :=
  String.ofList (lines.flatMap fun line => line.toList ++ ['\n'])

def Capture.inspect (capture : Capture) (files : Files) : Except CommandError String :=
  match capture.read files with
  | .error e => .error e
  | .ok payload =>
    match Message.decode payload with
    | .error e => .error (.notAMessage capture.path e)
    | .ok m => .ok (unlines (outline "" maxDepth m))

end Telemetry.Command
