import CompanionBus.Error.Value
import CompanionBus.Text.Utf8
/-
  A time that the device has rendered.

  The size of the data is part of the type: a rendered time of the wrong size does not exist, and
  `FormattedTime.ofBytes` says so where one is offered.
-/
namespace CompanionBus

/-- A rendered time: its layout, and data of the size of that layout. -/
structure FormattedTime where
  format : TimeFormat
  data : List UInt8
  length_data : data.length = format.dataLength
  deriving DecidableEq

namespace FormattedTime

/-- The rendered time of a layout in given bytes, which must have the size of the layout. -/
def ofBytes (format : TimeFormat) (data : List UInt8) : Except ValueError FormattedTime :=
  if h : data.length = format.dataLength then .ok ⟨format, data, h⟩
  else .error (.validation (.timeLength format data.length))

/-- The text of a time in a text layout, if its bytes are text. -/
def text? (t : FormattedTime) : Option String :=
  if t.format.isText then Utf8.text? t.data else none

end FormattedTime

end CompanionBus
