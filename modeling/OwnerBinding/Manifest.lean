import OwnerBinding.Declaration.Graph
import OwnerBinding.Json.Reader
import OwnerBinding.Manifest.Schema

/-!
# Manifests

A manifest is a JSON document that lists declarations. It is given as a value, as a text or as the
bytes of a text. A text is first read to its end, and what it is read as is then checked like any
value. Only two messages tell the forms apart (`Manifest.Form`). That is an assumption about the
validator, some versions of which list unknown keys of a text in another order.
-/

namespace OwnerBinding

namespace Manifest

/-- The graph of a manifest that is given as a value. -/
def ofValue (value : Json) : Checked Fault DeclarationGraph :=
  (manifest value).map fun declarations => { declarations }

/-- The failure that the faults of a manifest amount to. -/
def failure (faults : List Fault) : Failure := .invalidManifest (summary faults)

/-- The graph of a manifest that was read from a text, if it could be read. -/
def ofRead : Option Json → Checked Fault DeclarationGraph
  | some value => ofValue value
  | none => faultHere .notJson

/-- The graph of a manifest that is given as a text. -/
def ofText (text : String) : Checked Fault DeclarationGraph :=
  ofRead (Json.read Json.depthLimit text)

/-- The graph of a manifest that is given by the bytes of its text. -/
def ofBytes (bytes : ByteArray) : Checked Fault DeclarationGraph :=
  ofRead (Json.readBytes Json.depthLimit bytes)

/-- The graph of a manifest that is either a text or a value, with the form that it had. A string is
taken as a text. -/
def ofDocument : Json → Form × Checked Fault DeclarationGraph
  | .string text => (.text, ofText text)
  | value => (.value, ofValue value)

end Manifest

end OwnerBinding
