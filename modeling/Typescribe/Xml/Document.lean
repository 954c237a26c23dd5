import Typescribe.Text.Blank
import Typescribe.Xml.Namespace

/-! Reading XML documents. Document type declarations are refused, so the predefined entities are
the only ones. -/
namespace Typescribe.Xml

/-- The root of a document, which may start with a byte order mark. -/
def read? (text : String) : Option Node := do
  let cs := Text.dropMark text.toList
  if cs.all isChar then
    let root ← Node.ofChunks? (← Chunk.ofDocument? cs)
    if root.isBound [] then some root else none
  else none

end Typescribe.Xml
