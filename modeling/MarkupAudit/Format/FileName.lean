import MarkupAudit.Text.Case
import MarkupAudit.Text.Split

/-!
# File names

A text that ends with the extension of a common kind of file is taken for a file name.
-/

namespace MarkupAudit.FileName

def extensions : List String :=
  ["pdf", "doc", "docx", "png", "jpg", "jpeg", "gif", "webp", "svg", "svgz", "apng", "mp3", "mp4",
    "mov", "ogg", "xls", "xlsx", "txt", "zip", "rar"]

def endsInExtension (extensions : List String) (s : String) : Bool :=
  extensions.any fun extension => Text.endsIn ("." ++ extension) (Text.lower s)

def looksLike (s : String) : Bool :=
  endsInExtension extensions s

end MarkupAudit.FileName
