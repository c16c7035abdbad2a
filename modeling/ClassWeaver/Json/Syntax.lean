import ClassWeaver.Json.Basic

/-!
# Documents as text

Files hold documents as text. How a text is read and how a document is printed is up to a library; whatever loads or writes
documents takes both as they come.

## Contents

* `DocumentSyntax` — a way to read and to print documents.
* `documentText` — the text of a file.
-/

namespace ClassWeaver

/-- How deep arrays and objects of documents may nest. -/
def Json.maxDepth : Nat :=
  127

/-- A way to read documents and to print them. -/
class DocumentSyntax where
  /-- The document that a text spells, if it spells one. -/
  parse? : String → Option Json
  /-- The text of a document, over several lines. -/
  print : Json → String

/-- The text of a file that holds a document. -/
def documentText [DocumentSyntax] (document : Json) : String :=
  DocumentSyntax.print document ++ "\n"

end ClassWeaver
