import TermSearch.Ranking
import TermSearch.Request

/-!
# Demonstration

A tour of searching over customers: containment, searches over searches, comparisons, ranking
by whole words, and requests. Each section prints its title and one line for each customer
found.
-/

namespace TermSearch.Demo

open Text (Placement)

/-- A customer with a name, a city, an email address, and notes. -/
def customer (name city email notes : Value) : Value :=
  .record [("name", name), ("city", city), ("email", email), ("notes", notes)]

/-- The customers of the tour where no others are given. -/
def customers : List Value := [
  customer (.text "Ann Smith") (.text "London") (.text "ann@example.com")
    (.text "Prefers phone calls"),
  customer (.text "Bob Annand") (.text "Leeds") (.text "bob@example.org")
    (.text "Called twice about billing"),
  customer (.text "Carol Jones") (.text "London") .null (.text "New account"),
  customer (.text "Dave Brown") (.text "Bristol") (.text "DAVE@EXAMPLE.COM")
    (.text "Billing dispute, call back")]

/-- The written form of an attribute of a customer. -/
def shown (name : String) (item : Value) : String :=
  ((item.attribute? name).getD .null).display

/-- Prints a line. -/
def print (line : String) : Traced Event Unit :=
  Traced.record (.printed line)

/-- Prints an empty line and the title of a section. -/
def heading (title : String) : Traced Event Unit := do
  print ""
  print title

/-- The stage of a search over named properties, with the standard settings. -/
def stageOver (names : List String) : Traced Event Stage :=
  .ofExcept (Stage.ofSelectors (names.map .named) (.text Comparison.standard.label)
    (.text Placement.standard.label))

/-- Prints a line for each item that a search yields. -/
def printEach (s : Search) (items : List Value) (line : Value → String) :
    Traced Event Unit := do
  let _ ← s.traverse (fun item => print ("   " ++ line item)) (.ok items)

/-- Customers whose name or city contains one of two terms. -/
def containment (items : List Value) : Traced Event Unit := do
  heading "1. Customers whose name or city contains 'Ann' or 'Bristol':"
  let s ← (Search.start (← stageOver ["name", "city"])).filter .containing
    [.text "Ann", .text "Bristol"]
  printEach s items fun item => shown "name" item ++ " (" ++ shown "city" item ++ ")"

/-- A search over the customers of one city. -/
def nesting (items : List Value) : Traced Event Unit := do
  heading "2. London customers whose name starts with 'C':"
  let inner ← (Search.start (← stageOver ["city"])).filter .equalTo [.text "London"]
  let s ← (inner.narrow (← stageOver ["name"])).filter .startingWith [.text "C"]
  printEach s items (shown "name")

/-- The ends of texts, compared without regard to case. -/
def endings (items : List Value) : Traced Event Unit := do
  heading "3. Email addresses ending in '.com', ignoring case:"
  let s ← (Search.start (← stageOver ["email"])).callAll [
    .setComparison (.text (Comparison.label ⟨.ordinal, true⟩)),
    .filter .endingWith [.text ".com"]]
  printEach s items (shown "email")

/-- Ranking by the occurrences of whole words. -/
def ranking (items : List Value) : Traced Event Unit := do
  heading "4. Notes ranked by mentions of the whole word 'call':"
  let s ← (Search.start (← stageOver ["notes"])).callAll [
    .setComparison (.text (Comparison.label ⟨.currentCulture, true⟩)),
    .setPlacement (.text Placement.wholeWords.label),
    .filter .containing [.text "call", .text "calls"]]
  let results ← s.rankedByHits (.ok items)
  results.forM fun result =>
    print ("   " ++ toString result.hits ++ " hit(s): " ++ shown "name" result.item)

/-- The data of a request. -/
def requestData : Value :=
  .map [
    ("properties", .list [.text "notes"]),
    ("operation", .text "containing_all"),
    ("terms", .list [.text "billing", .text "call"]),
    ("comparison", .text "current_culture_ignore_case")]

/-- A search that is asked for by data. -/
def requesting (items : List Value) : Traced Event Unit := do
  heading "5. Declarative request:"
  let request ← Traced.ofExcept ((Request.ofValue requestData).mapError .invalidRequest)
  let s ← request.apply Search.start
  printEach s items (shown "name")

/-- The whole tour. -/
def tour (items : List Value) : Traced Event Unit := do
  print "Fluent Search - Basic Usage Demo"
  print (String.ofList (List.replicate 40 '='))
  containment items
  nesting items
  endings items
  ranking items
  requesting items

end TermSearch.Demo
