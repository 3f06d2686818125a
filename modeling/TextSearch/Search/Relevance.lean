import TextSearch.Index.Basic
import TextSearch.Text.Terms

/-!
# Relevance

A document is the more relevant, the more often the words of the query occur among its words and the
fewer documents have them; every word of the query that occurs in the title multiplies the score.
All words count, whatever their part in the query is, and repeated words count repeatedly.

The arithmetic is a parameter: `Weighing` names the operations that a score is made of, and
`Weighing.float` computes with doubles.
-/

namespace TextSearch

/-- The arithmetic of scores. -/
structure Weighing (S : Type) where
  zero : S
  add : S → S → S
  mul : S → S → S
  /-- The quotient of two counts, the second not zero. -/
  ratio : Nat → Nat → S
  /-- The weight of a word that so many documents, of so many in all, have; neither is zero. -/
  rarity : Nat → Nat → S
  /-- The factor for a word in the title. -/
  boost : S

namespace Weighing

/-- Scores as doubles; the rarity is the logarithm of the quotient of all documents and those with
the word. -/
def float : Weighing Float where
  zero := 0
  add := (· + ·)
  mul := (· * ·)
  ratio part whole := Float.ofNat part / Float.ofNat whole
  rarity all containing := Float.log (Float.ofNat all / Float.ofNat containing)
  boost := 1.5

variable {S : Type} (w : Weighing S)

/-- How large a part of a document's words a word is. -/
def termFrequency (entry : Entry) (word : String) : S :=
  if entry.wordCount = 0 then w.zero else w.ratio (entry.count word) entry.wordCount

/-- The weight of a word by the number of documents that have it, of `all` documents. -/
def inverseFrequency (all containing : Nat) : S :=
  if containing = 0 ∨ all = 0 then w.zero else w.rarity all containing

/-- The words of a query with their weights. -/
def weigh (index : Index) (words : List String) : List (String × S) :=
  words.map fun word => (word, w.inverseFrequency index.size (index.postings.frequency word))

/-- The score without the title. -/
def baseScore (weighed : List (String × S)) (entry : Entry) : S :=
  weighed.foldl (fun score (word, weight) =>
    w.add score (w.mul (w.termFrequency entry word) weight)) w.zero

/-- Multiply a score once for each word that occurs in the title. -/
def boosted (words : List String) (document : Document) (score : S) : S :=
  let title := (Text.lowercase document.title).toList
  words.foldl (fun score word =>
    if Text.contains word.toList title then w.mul score w.boost else score) score

/-- The score of a document. -/
def score (weighed : List (String × S)) (entry : Entry) : S :=
  w.boosted (weighed.map (·.1)) entry.document (w.baseScore weighed entry)

end Weighing
end TextSearch
