import ControlNode.Decimal.Notation
import ControlNode.Session.Decoding

/-!
# Describing a session

The text that shows what a session knows: the acknowledged layout, the time reference and the time
of a pending reset.
-/

namespace ControlNode

def timeStyle : Decimal.Style where
  format := .double
  lowest := -4
  highest := 15
  plus := false
  tie := .away
  nan := "NaN"
  infinite := "inf"
  negativeInfinite := "-inf"

def describeOption {α : Type} (describe : α → String) : Option α → String
  | some a => "Some(" ++ describe a ++ ")"
  | none => "None"

def describeTime (time : Float) : String := timeStyle.write time.toBits.toNat

namespace Layout

/-- A layout with the fields of its samples. -/
def describe (l : Layout) : String :=
  "DecodeConfig \x7b fields: " ++ Text.bracketed ("Time" :: l.quantities.map Quantity.symbol) ++
    ", sample_len: " ++ toString l.sampleLength ++ ", source: " ++ l.railText ++
    ", config_byte: " ++ toString l.configByte.toNat ++ " \x7d"

end Layout

namespace Decoding

/-- What is known when a packet is decoded. -/
def describe (d : Decoding) : String :=
  "DecodeState \x7b config: " ++ describeOption Layout.describe d.layout ++
    ", time_ref: " ++ describeOption describeTime d.reference ++
    ", pending_time: " ++ describeOption describeTime d.pending ++ " \x7d"

def describeSession (d : Decoding) : String :=
  "Protocol \x7b state: " ++ d.describe ++ ", .. \x7d"

end Decoding

end ControlNode
