import TextSearch.Index.Basic

/-!
# A sample of documents

Two documents that share a word, to try queries on.
-/

namespace TextSearch
namespace Sample

/-- A page that was created and updated at the beginning of 2024. -/
def page (id title body : String) : Document :=
  .page id title body (.ofDays 0)

/-- The documents of the sample. -/
def documents : List Document := [
  page "doc1" "Deep Learning Basics" "deep learning uses neural networks",
  page "doc2" "Cooking Basics" "deep frying uses hot oil"]

/-- The index of the sample. -/
def index : Index :=
  Index.empty.insertAll (documents.map Document.analyze)

end Sample
end TextSearch
