/-! Texts as bytes in UTF-8. -/
namespace StepFlow.Text

/-- The text that the bytes encode; none if they are not well-formed. -/
def ofUtf8? (bs : List UInt8) : Option String := String.fromUTF8? (ByteArray.mk bs.toArray)

end StepFlow.Text
