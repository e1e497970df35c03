import OwnerBinding.Manifest
import OwnerBinding.Storage

/-!
# Manifests in files

A manifest that is kept in a file is read from the bytes of the file. Whatever the storage has
against reading the file comes before any fault of the manifest.
-/

namespace OwnerBinding

namespace Manifest

/-- The graph of a manifest that is the content of a file. -/
def ofFile (storage : Storage) (path : Path) :
    Except StorageFault (Checked Fault DeclarationGraph) := do
  let content ← storage.readFile path.components
  return ofBytes content.toUTF8

end Manifest

end OwnerBinding
