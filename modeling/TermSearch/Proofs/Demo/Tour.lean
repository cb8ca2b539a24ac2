import TermSearch.Proofs.Demo.Printing
import TermSearch.Proofs.Text.Runs

/-!
# The Tour

What the tour prints for any customers. A customer has four texts, any of which may be absent. An
absent text is written as `None` and matches nothing. The tour completes, and below the title of
each section stands one line for each customer that the section is about, in the order in which the
customers come; only the ranking puts those with more hits first.

What a section is about is said of the texts alone: of their composed forms, where case matters; of
their upper case or their folded forms, where it does not; and of the words that a folded form falls
into.

## Main definitions

- `Customer`: the texts of a customer.
- `Customer.IsAnnOrInBristol` and so on: what the sections are about.
- `Customer.callCount`: how often the notes mention a call.

## Main statements

- `tour_prints`: what the tour prints.
-/

namespace TermSearch.Demo

open Text (Placement)

/-! ## Customers -/

/-- The texts of a customer, where they are given. -/
structure Customer where
  name : Option String
  city : Option String
  email : Option String
  notes : Option String

/-- The written form of a text that may be absent. -/
def written (text : Option String) : String :=
  text.getD "None"

/-- The form in which texts are compared with regard to case. -/
def composed (text : String) : List Char :=
  Unicode.compose text.toList

/-- The form in which texts are compared without regard to case. -/
def folded (text : String) : List Char :=
  Comparison.normalForm ⟨.currentCulture, true⟩ text.toList

/-- The upper case of a text, character by character. -/
def raised (text : String) : List Char :=
  text.toList.flatMap Unicode.uppercase

namespace Customer

/-- The item that a customer is. -/
def item (c : Customer) : Value :=
  customer (.ofText? c.name) (.ofText? c.city) (.ofText? c.email) (.ofText? c.notes)

/-! ### What the sections are about -/

/-- The name or the city contains one of two words. -/
def IsAnnOrInBristol (c : Customer) : Prop :=
  ∃ text ∈ [c.name, c.city], ∃ s ∈ text, ∃ term ∈ ["Ann", "Bristol"],
    term.toList <:+: composed s

/-- The city is London, and the name starts with a C. -/
def IsLondonerWithC (c : Customer) : Prop :=
  (∃ s ∈ c.city, composed s = "London".toList) ∧ ∃ s ∈ c.name, "C".toList <+: composed s

/-- The upper case of the address ends with `.COM`. -/
def HasComAddress (c : Customer) : Prop :=
  ∃ s ∈ c.email, ".COM".toList <:+ raised s

/-- The notes mention a call, or calls, as a whole word. -/
def MentionsCall (c : Customer) : Prop :=
  ∃ s ∈ c.notes, ∃ term ∈ ["call", "calls"], Text.Occurs .wholeWords term.toList (folded s)

/-- The notes contain both of two words. -/
def IsAboutBillingCall (c : Customer) : Prop :=
  ∃ s ∈ c.notes, ∀ term ∈ ["billing", "call"], term.toList <:+: folded s

/-- How many words of the notes are the word for a call, or for calls. -/
def callCount (c : Customer) : Nat :=
  c.notes.elim 0 fun s =>
    (["call", "calls"].map fun term => (Text.wordRuns (folded s)).count term.toList).sum

instance : DecidablePred IsAnnOrInBristol := fun c =>
  inferInstanceAs (Decidable (∃ text ∈ [c.name, c.city], ∃ s ∈ text, ∃ term ∈ ["Ann", "Bristol"],
    term.toList <:+: composed s))

instance : DecidablePred IsLondonerWithC := fun c =>
  inferInstanceAs (Decidable ((∃ s ∈ c.city, composed s = "London".toList) ∧
    ∃ s ∈ c.name, "C".toList <+: composed s))

instance : DecidablePred HasComAddress := fun c =>
  inferInstanceAs (Decidable (∃ s ∈ c.email, ".COM".toList <:+ raised s))

instance (term text : List Char) (placement : Placement) :
    Decidable (Text.Occurs placement term text) :=
  decidable_of_iff _ Text.occurs_eq_true_iff

instance : DecidablePred MentionsCall := fun c =>
  inferInstanceAs (Decidable (∃ s ∈ c.notes, ∃ term ∈ ["call", "calls"],
    Text.Occurs .wholeWords term.toList (folded s)))

instance : DecidablePred IsAboutBillingCall := fun c =>
  inferInstanceAs (Decidable (∃ s ∈ c.notes, ∀ term ∈ ["billing", "call"],
    term.toList <:+: folded s))

/-! ### Properties -/

/-- The names of the properties. -/
def propertyNames : List String :=
  ["name", "city", "email", "notes"]

/-- The text that goes by a name. -/
def property (c : Customer) : String → Option String
  | "name" => c.name
  | "city" => c.city
  | "email" => c.email
  | "notes" => c.notes
  | _ => none

variable {c : Customer} {name : String}

/-- The properties of a customer can all be read. -/
theorem read_property (hname : name ∈ propertyNames) :
    ((Accessor.named name).read c.item).result = .ok (c.property name) := by
  obtain ⟨name?, city?, email?, notes?⟩ := c
  simp only [propertyNames, List.mem_cons, List.not_mem_nil, or_false] at hname
  rcases hname with rfl | rfl | rfl | rfl
  · cases name? <;> rfl
  · cases city? <;> rfl
  · cases email? <;> rfl
  · cases notes? <;> rfl

/-- A text that is absent is shown as `None`. -/
theorem shown_property (hname : name ∈ propertyNames) :
    shown name c.item = written (c.property name) := by
  obtain ⟨name?, city?, email?, notes?⟩ := c
  simp only [propertyNames, List.mem_cons, List.not_mem_nil, or_false] at hname
  rcases hname with rfl | rfl | rfl | rfl
  · cases name? <;> rfl
  · cases city? <;> rfl
  · cases email? <;> rfl
  · cases notes? <;> rfl

theorem item_injective : Function.Injective item := by
  have hofText : ∀ s t : Option String, Value.ofText? s = Value.ofText? t → s = t := by
    rintro (_ | s) (_ | t) h
    · rfl
    · exact nomatch h
    · exact nomatch h
    · exact congrArg some (Value.text.inj h)
  rintro ⟨name, city, email, notes⟩ ⟨name', city', email', notes'⟩ h
  simp only [item, customer, Value.record.injEq, List.cons.injEq, Prod.mk.injEq, true_and,
    and_true] at h
  obtain ⟨hname, hcity, hemail, hnotes⟩ := h
  rw [hofText _ _ hname, hofText _ _ hcity, hofText _ _ hemail, hofText _ _ hnotes]

section

variable {names : List String} {comparison : Comparison} {placement : Placement}
  {conditions : List Condition}

theorem readable (hnames : ∀ name ∈ names, name ∈ propertyNames) :
    (⟨names.map .named, comparison, placement, conditions⟩ : Stage).Readable c.item := by
  intro accessor hmem
  obtain ⟨name, hname, rfl⟩ := List.mem_map.mp hmem
  exact ⟨_, read_property (hnames name hname)⟩

theorem texts_eq (hnames : ∀ name ∈ names, name ∈ propertyNames) :
    (⟨names.map .named, comparison, placement, conditions⟩ : Stage).texts c.item =
      names.filterMap c.property := by
  rw [Stage.texts, List.filterMap_map]
  refine List.filterMap_congr fun name hname => ?_
  rw [Function.comp_apply, Accessor.textOf, read_property (hnames name hname)]
  rfl

end

end Customer

/-! ## Sections -/

/-- The lines of a section: an empty one, the title, and the entries. -/
def sectionLines (title : String) (entries : List String) : List String :=
  "" :: title :: entries.map ("   " ++ ·)

section

variable {s : Search} {customers : List Customer} {P : Customer → Prop} [DecidablePred P]

/-- The items that a search accepts are the customers for whom its conditions hold. -/
theorem filter_items (haccepts : ∀ c : Customer, (s.accepts c.item).result = .ok (decide (P c))) :
    (customers.map Customer.item).filter (fun item => Verdict.isYes (s.accepts item).result) =
      (customers.filter fun c => decide (P c)).map Customer.item := by
  rw [List.filter_map]
  refine congrArg _ (List.filter_congr fun c _ => ?_)
  rw [Function.comp_apply, haccepts, Verdict.isYes_ok]

theorem isOk_accepts (haccepts : ∀ c : Customer, (s.accepts c.item).result = .ok (decide (P c))) :
    ∀ item ∈ customers.map Customer.item, (s.accepts item).result.isOk = true := by
  intro item hmem
  obtain ⟨c, -, rfl⟩ := List.mem_map.mp hmem
  rw [haccepts]
  rfl

/-- A search prints an entry for each customer for whom its conditions hold. -/
theorem prints_entries {line : Value → String} {entry : Customer → String}
    (haccepts : ∀ c : Customer, (s.accepts c.item).result = .ok (decide (P c)))
    (hline : ∀ c : Customer, line c.item = entry c) :
    Prints (printEach s (customers.map Customer.item) line) ()
      (((customers.filter fun c => decide (P c)).map entry).map ("   " ++ ·)) := by
  have hprints := Prints.printEach line (@isOk_accepts s customers P _ haccepts)
  rw [filter_items haccepts, List.map_map] at hprints
  rw [List.map_map]
  simpa only [Function.comp_def, hline] using hprints

end

/-- A search over properties of customers accepts those whose texts satisfy all conditions. -/
theorem accepts_item {s : Search} {c : Customer} {p : Prop} [Decidable p]
    (hread : ∀ stage ∈ s.stages, stage.Readable c.item)
    (hconditions : (∀ stage ∈ s.stages, ∀ condition ∈ stage.conditions,
      condition.holdsOn (stage.texts c.item) = true) ↔ p) :
    (s.accepts c.item).result = .ok (decide p) := by
  rw [Search.accepts_of_readable hread]
  refine congrArg Except.ok (Bool.eq_iff_iff.mpr ?_)
  simpa only [List.all_eq_true, decide_eq_true_eq] using hconditions

/-- A search with one condition accepts the customers for whom it holds. -/
theorem accepts_of_one_condition {c : Customer} {p : Prop} [Decidable p] {names : List String}
    {comparison : Comparison} {placement : Placement} {condition : Condition}
    (hnames : ∀ name ∈ names, name ∈ Customer.propertyNames)
    (hcondition : condition.holdsOn (names.filterMap c.property) = true ↔ p) :
    ((⟨⟨names.map .named, comparison, placement, [condition]⟩, []⟩ : Search).accepts
      c.item).result = .ok (decide p) := by
  refine accepts_item (fun stage hstage => ?_) ?_
  · obtain rfl := List.mem_singleton.mp hstage
    exact Customer.readable hnames
  · rw [Search.stages, List.forall_mem_singleton, List.forall_mem_singleton,
      Customer.texts_eq hnames]
    exact hcondition

/-- A search over a search accepts the customers for whom the conditions of both hold. -/
theorem accepts_of_two_conditions {c : Customer} {p : Prop} [Decidable p]
    {names inner : List String} {comparison comparison' : Comparison}
    {placement placement' : Placement} {condition condition' : Condition}
    (hnames : ∀ name ∈ names, name ∈ Customer.propertyNames)
    (hinner : ∀ name ∈ inner, name ∈ Customer.propertyNames)
    (hconditions : condition.holdsOn (names.filterMap c.property) = true ∧
      condition'.holdsOn (inner.filterMap c.property) = true ↔ p) :
    ((⟨⟨names.map .named, comparison, placement, [condition]⟩,
        [⟨inner.map .named, comparison', placement', [condition']⟩]⟩ : Search).accepts
      c.item).result = .ok (decide p) := by
  refine accepts_item (List.forall_mem_cons.mpr ⟨Customer.readable hnames,
    List.forall_mem_singleton.mpr (Customer.readable hinner)⟩) ?_
  rw [Search.stages, List.forall_mem_cons, List.forall_mem_singleton, List.forall_mem_singleton,
    List.forall_mem_singleton, Customer.texts_eq hnames, Customer.texts_eq hinner]
  exact hconditions

/-- Asking something of the texts that go by names is asking it of the properties. -/
theorem exists_mem_texts {c : Customer} {names : List String} {q : String → Prop} :
    (∃ s ∈ names.filterMap c.property, q s) ↔ ∃ text ∈ names.map c.property, ∃ s ∈ text, q s := by
  constructor
  · rintro ⟨s, hs, hq⟩
    obtain ⟨name, hname, hsome⟩ := List.mem_filterMap.mp hs
    exact ⟨_, List.mem_map_of_mem hname, s, hsome, hq⟩
  · rintro ⟨text, htext, s, hs, hq⟩
    obtain ⟨name, hname, rfl⟩ := List.mem_map.mp htext
    exact ⟨s, List.mem_filterMap.mpr ⟨name, hname, hs⟩, hq⟩

/-- What is asked of the text that goes by a single name. -/
theorem exists_mem_text {c : Customer} {name : String} {q : String → Prop} :
    (∃ s ∈ [name].filterMap c.property, q s) ↔ ∃ s ∈ c.property name, q s := by
  rw [exists_mem_texts]
  simp only [List.map_singleton, List.mem_singleton, exists_eq_left]

/-- A condition with a single term asks for this term. -/
theorem exists_mem_condition {term : String} {q : String → Prop} :
    (∃ other ∈ [term], q other) ↔ q term := by
  simp only [List.mem_singleton, exists_eq_left]

/-- There is one text at most, so it has to match all terms if each of them is to be matched. -/
theorem forall_exists_mem_iff {text : Option String} {terms : List String} (hne : terms ≠ [])
    {q : String → String → Prop} :
    (∀ term ∈ terms, ∃ s ∈ text, q s term) ↔ ∃ s ∈ text, ∀ term ∈ terms, q s term := by
  constructor
  · intro h
    obtain ⟨first, hfirst⟩ := List.exists_mem_of_ne_nil terms hne
    obtain ⟨s, hs, -⟩ := h first hfirst
    refine ⟨s, hs, fun term hterm => ?_⟩
    obtain ⟨other, hother, hq⟩ := h term hterm
    obtain rfl := Option.mem_unique hs hother
    exact hq
  · rintro ⟨s, hs, hq⟩ term hterm
    exact ⟨s, hs, hq term hterm⟩

theorem occurs_anywhere_iff {term text : List Char} :
    Text.Occurs .anywhere term text ↔ term <:+: text := by
  constructor
  · rintro ⟨before, after, htext, -⟩
    exact ⟨before, after, htext.symm⟩
  · rintro ⟨before, after, htext⟩
    exact ⟨before, after, htext.symm, rfl⟩

/-! ### Containment -/

theorem prints_containment (customers : List Customer) :
    Prints (containment (customers.map Customer.item)) ()
      (sectionLines "1. Customers whose name or city contains 'Ann' or 'Bristol':"
        ((customers.filter fun c => decide c.IsAnnOrInBristol).map fun c =>
          written c.name ++ " (" ++ written c.city ++ ")")) := by
  have hterms : Terms.validate Operation.containing.keepsBlank
      (.list [.text "Ann", .text "Bristol"]) = .ok ["Ann", "Bristol"] := by
    rfl
  have hnames : ∀ name ∈ ["name", "city"], name ∈ Customer.propertyNames := by decide
  have hforms : ∀ term ∈ ["Ann", "Bristol"],
      Comparison.standard.normalForm term.toList = term.toList := by decide +kernel
  refine (Prints.heading _).bind ((Prints.stageOver (by decide) (by decide +kernel)).quietly_bind
    ((Prints.filter hterms).quietly_bind (prints_entries (fun c => ?_) fun c => ?_)))
  · refine accepts_of_one_condition hnames ?_
    rw [Condition.holdsOn_together rfl, exists_mem_texts]
    refine exists_congr fun text => and_congr_right fun _ => exists_congr fun s =>
      and_congr_right fun _ => exists_congr fun term => and_congr_right fun hterm => ?_
    have hform := hforms term hterm
    rw [← hform]
    exact occurs_anywhere_iff
  · rw [Customer.shown_property (by decide), Customer.shown_property (by decide)]
    rfl

/-! ### Searches over searches -/

theorem prints_nesting (customers : List Customer) :
    Prints (nesting (customers.map Customer.item)) ()
      (sectionLines "2. London customers whose name starts with 'C':"
        ((customers.filter fun c => decide c.IsLondonerWithC).map fun c => written c.name)) := by
  have hcity : Terms.validate Operation.equalTo.keepsBlank (.list [.text "London"]) =
      .ok ["London"] := by
    rfl
  have hname : Terms.validate Operation.startingWith.keepsBlank (.list [.text "C"]) =
      .ok ["C"] := by
    rfl
  have hlondon : Comparison.standard.normalForm "London".toList = "London".toList := by
    decide +kernel
  have hletter : Comparison.standard.normalForm "C".toList = "C".toList := by decide +kernel
  have hnames : ∀ name ∈ ["name"], name ∈ Customer.propertyNames := by decide
  have hcities : ∀ name ∈ ["city"], name ∈ Customer.propertyNames := by decide
  refine (Prints.heading _).bind ((Prints.stageOver (by decide) (by decide +kernel)).quietly_bind
    ((Prints.filter hcity).quietly_bind
      ((Prints.stageOver (by decide) (by decide +kernel)).quietly_bind
        ((Prints.filter hname).quietly_bind (prints_entries (fun c => ?_) fun c => ?_)))))
  · refine accepts_of_two_conditions hnames hcities ?_
    rw [Condition.holdsOn_together rfl, Condition.holdsOn_together rfl, exists_mem_text,
      exists_mem_text, and_comm]
    refine and_congr (exists_congr fun s => and_congr_right fun _ => ?_)
      (exists_congr fun s => and_congr_right fun _ => ?_)
    · rw [← hlondon]
      exact exists_mem_condition
    · rw [← hletter]
      exact exists_mem_condition
  · rw [Customer.shown_property (by decide)]
    rfl

/-! ### Ends of texts -/

theorem prints_endings (customers : List Customer) :
    Prints (endings (customers.map Customer.item)) ()
      (sectionLines "3. Email addresses ending in '.com', ignoring case:"
        ((customers.filter fun c => decide c.HasComAddress).map fun c => written c.email)) := by
  have hterms : Terms.validate Operation.endingWith.keepsBlank (.list [.text ".com"]) =
      .ok [".com"] := by
    rfl
  have hform : Comparison.normalForm ⟨.ordinal, true⟩ ".com".toList = ".COM".toList := by
    decide +kernel
  have hnames : ∀ name ∈ ["email"], name ∈ Customer.propertyNames := by decide
  refine (Prints.heading _).bind ((Prints.stageOver (by decide) (by decide +kernel)).quietly_bind
    (((Prints.setComparison _ _).callAll_cons (Prints.callAll_filter hterms)).quietly_bind
      (prints_entries (fun c => ?_) fun c => ?_)))
  · refine accepts_of_one_condition hnames ?_
    rw [Condition.holdsOn_together rfl, exists_mem_text]
    refine exists_congr fun s => and_congr_right fun _ => ?_
    rw [← hform]
    exact exists_mem_condition
  · rw [Customer.shown_property (by decide)]
    rfl

/-! ### Rankings -/

namespace Customer

/-- The entry of a customer in the ranking. -/
def entry (c : Customer) : RankedItem :=
  ⟨c.callCount, c.item⟩

theorem entry_injective : Function.Injective entry :=
  fun _ _ h => item_injective (RankedItem.mk.inj h).2

/-- The words that are looked for are made of word characters, and folding leaves them. -/
theorem callWords_spec : ∀ term ∈ ["call", "calls"],
    Comparison.normalForm ⟨.currentCulture, true⟩ term.toList = term.toList ∧ term.toList ≠ [] ∧
      term.toList.all Unicode.isWordCharacter = true := by
  decide +kernel

/-- The words are counted as often as they occur. -/
theorem count_eq {term : String} (h : term ∈ ["call", "calls"]) (s : String) :
    Text.count .wholeWords term.toList (folded s) =
      (Text.wordRuns (folded s)).count term.toList := by
  obtain ⟨-, hne, hword⟩ := callWords_spec term h
  exact Text.count_wholeWords_eq_count_wordRuns hne (List.all_eq_true.mp hword) (folded s)

/-- Notes that mention a call have some word for it. -/
theorem callCount_pos {c : Customer} (h : c.MentionsCall) : 1 ≤ c.callCount := by
  obtain ⟨s, hs, term, hterm, hoccurs⟩ := h
  obtain ⟨-, hne, -⟩ := callWords_spec term hterm
  have hpos : 0 < (Text.wordRuns (folded s)).count term.toList := by
    rw [← count_eq hterm]
    exact (Text.count_pos_iff hne).mpr (Text.occurs_eq_true_iff.mpr hoccurs)
  have hnotes : c.notes = some s := hs
  rw [callCount, hnotes]
  exact hpos.trans_le (List.le_sum_of_mem (List.mem_map_of_mem hterm))

/-- The hits of a customer are the words that are looked for. -/
theorem hitsOf_item (c : Customer) :
    (⟨["notes"].map .named, ⟨.currentCulture, true⟩, .wholeWords,
      [⟨.containing, ["call", "calls"], ⟨.currentCulture, true⟩, .wholeWords⟩]⟩ : Stage).hitsOf
        c.item = c.callCount := by
  have htexts : ["notes"].filterMap c.property = c.notes.toList := by
    show List.filterMap c.property ["notes"] = (c.property "notes").toList
    cases h : c.property "notes" <;> simp [h]
  rw [Stage.hitsOf, texts_eq (by decide), htexts]
  show (["call", "calls"].map
    (Comparison.occurrences ⟨.currentCulture, true⟩ .wholeWords c.notes.toList)).sum + 0 = _
  rw [Nat.add_zero, callCount]
  cases c.notes with
  | none => rfl
  | some s =>
    refine congrArg List.sum (List.map_congr_left fun term hterm => ?_)
    obtain ⟨hform, -, -⟩ := callWords_spec term hterm
    show Text.count .wholeWords (Comparison.normalForm ⟨.currentCulture, true⟩ term.toList)
      (folded s) + 0 = _
    rw [Nat.add_zero, hform, count_eq hterm]

end Customer

/-- The search whose results are ranked. -/
def callSearch : Search :=
  ⟨⟨["notes"].map .named, ⟨.currentCulture, true⟩, .wholeWords,
    [⟨.containing, ["call", "calls"], ⟨.currentCulture, true⟩, .wholeWords⟩]⟩, []⟩

theorem accepts_callSearch (c : Customer) :
    (callSearch.accepts c.item).result = .ok (decide c.MentionsCall) := by
  refine accepts_of_one_condition (by decide) ?_
  rw [Condition.holdsOn_together rfl, exists_mem_text]
  refine exists_congr fun s => and_congr_right fun _ => exists_congr fun term =>
    and_congr_right fun hterm => ?_
  obtain ⟨hform, -, -⟩ := Customer.callWords_spec term hterm
  rw [← hform]
  rfl

/-- Customers in the order of their entries. -/
def ordered (customers : List Customer) : List Customer :=
  customers.mergeSort fun c d => decide (d.callCount ≤ c.callCount)

theorem orderByHits_entries (customers : List Customer) :
    Search.orderByHits (customers.map Customer.entry) = (ordered customers).map Customer.entry := by
  have hhits : ∀ c ∈ customers, ∀ d ∈ customers,
      decide (d.callCount ≤ c.callCount) = decide (d.entry.hits ≤ c.entry.hits) :=
    fun _ _ _ _ => rfl
  exact (List.map_mergeSort hhits).symm

/-- The entries are put in order like the customers that they are about. -/
theorem prints_rankedByHits (customers : List Customer) :
    Prints (callSearch.rankedByHits (.ok (customers.map Customer.item)))
      ((ordered (customers.filter fun c => decide c.MentionsCall)).map Customer.entry) [] := by
  have hread : ∀ item ∈ customers.map Customer.item, callSearch.own.Readable item := by
    intro item hmem
    obtain ⟨c, -, rfl⟩ := List.mem_map.mp hmem
    exact Customer.readable (by decide)
  have hprints := Prints.rankedByHits (isOk_accepts accepts_callSearch) hread
  rw [filter_items accepts_callSearch, List.map_map] at hprints
  have hentries : (fun item => RankedItem.mk (callSearch.own.hitsOf item) item) ∘ Customer.item =
      Customer.entry :=
    funext fun c => congrArg (RankedItem.mk · c.item) c.hitsOf_item
  rw [hentries, orderByHits_entries] at hprints
  exact hprints

/-- A line of the ranking gives the hits and the name. -/
theorem prints_ranked (customers : List Customer) :
    Prints ((customers.map Customer.entry).forM fun result =>
        print ("   " ++ toString result.hits ++ " hit(s): " ++ shown "name" result.item)) ()
      ((customers.map fun c => toString c.callCount ++ " hit(s): " ++ written c.name).map
        ("   " ++ ·)) := by
  have hlines : (customers.map Customer.entry).map (fun result =>
      "   " ++ toString result.hits ++ " hit(s): " ++ shown "name" result.item) =
        (customers.map fun c => toString c.callCount ++ " hit(s): " ++ written c.name).map
          ("   " ++ ·) := by
    rw [List.map_map, List.map_map]
    refine List.map_congr_left fun c _ => ?_
    rw [Function.comp_apply, Function.comp_apply, Customer.entry,
      Customer.shown_property (by decide), String.append_assoc, String.append_assoc,
      String.append_assoc]
    rfl
  rw [← hlines]
  exact Prints.forM _ _

/-- The ranking lists the customers whose notes mention a call, those with more words for it first,
and those with equally many as they come. -/
theorem prints_ranking (customers : List Customer) :
    ∃ ordered : List Customer,
      Prints (ranking (customers.map Customer.item)) ()
        (sectionLines "4. Notes ranked by mentions of the whole word 'call':"
          (ordered.map fun c => toString c.callCount ++ " hit(s): " ++ written c.name)) ∧
      ordered.Perm (customers.filter fun c => decide c.MentionsCall) ∧
      ordered.Pairwise (fun c d => d.callCount ≤ c.callCount) ∧
      ∀ count, ordered.filter (fun c => c.callCount = count) =
        (customers.filter fun c => decide c.MentionsCall).filter fun c => c.callCount = count := by
  have hterms : Terms.validate Operation.containing.keepsBlank
      (.list [.text "call", .text "calls"]) = .ok ["call", "calls"] := by
    rfl
  -- what is known of the order of entries is known of the customers
  have hfalls := Search.fallsStably_orderByHits
    ((customers.filter fun c => decide c.MentionsCall).map Customer.entry)
  rw [orderByHits_entries] at hfalls
  refine ⟨ordered (customers.filter fun c => decide c.MentionsCall), ?_, List.mergeSort_perm _ _,
    List.pairwise_map.mp hfalls.falling, fun count => ?_⟩
  · refine (Prints.heading _).bind
      ((Prints.stageOver (by decide) (by decide +kernel)).quietly_bind
        (((Prints.setComparison _ _).callAll_cons ((Prints.setPlacement _ _).callAll_cons
          (Prints.callAll_filter hterms))).quietly_bind
            ((prints_rankedByHits customers).quietly_bind ?_)))
    exact prints_ranked _
  · have hstable := hfalls.stable count
    rw [List.filter_map, List.filter_map] at hstable
    exact Customer.entry_injective.list_map hstable

/-! ### Requests -/

/-- The request of the tour. -/
def request : Request :=
  ⟨["notes"], .containingAll, ["billing", "call"], ⟨.currentCulture, true⟩, .standard⟩

/-- The data describes the request. -/
theorem ofValue_requestData : Request.ofValue requestData = .ok request := by
  decide +kernel

theorem prints_requesting (customers : List Customer) :
    Prints (requesting (customers.map Customer.item)) ()
      (sectionLines "5. Declarative request:"
        ((customers.filter fun c => decide c.IsAboutBillingCall).map fun c => written c.name)) := by
  have hterms : Terms.validate request.operation.keepsBlank (.list (request.terms.map .text)) =
      .ok ["billing", "call"] := by
    rfl
  have hforms : ∀ term ∈ ["billing", "call"],
      Comparison.normalForm ⟨.currentCulture, true⟩ term.toList = term.toList := by decide +kernel
  have hnames : ∀ name ∈ ["notes"], name ∈ Customer.propertyNames := by decide
  have hread : Prints (Traced.ofExcept ((Request.ofValue requestData).mapError .invalidRequest))
      request [] := by
    rw [ofValue_requestData]
    exact ⟨rfl, rfl⟩
  refine (Prints.heading _).bind (hread.quietly_bind
    ((Prints.apply (by decide) (by decide +kernel) hterms Search.start).quietly_bind
      (prints_entries (fun c => ?_) fun c => ?_)))
  · refine accepts_of_one_condition hnames ?_
    rw [Condition.holdsOn_each rfl]
    show (∀ term ∈ ["billing", "call"], ∃ s ∈ ["notes"].filterMap c.property,
      Operation.containingAll.Matches ⟨.currentCulture, true⟩ .anywhere s term) ↔ _
    simp only [exists_mem_text]
    rw [forall_exists_mem_iff (by decide)]
    refine exists_congr fun s => and_congr_right fun _ => forall₂_congr fun term hterm => ?_
    have hform := hforms term hterm
    rw [← hform]
    exact occurs_anywhere_iff
  · rw [Customer.shown_property (by decide)]
    rfl

/-! ### The whole tour -/

/-- The tour completes. It prints its title and then five sections, each with one line for every
customer that it is about. The fourth one gives the number of words that mention a call, at least
one, and goes by falling numbers, where customers with equal numbers stand as they come; the others
go by the order of the customers. -/
theorem tour_prints (customers : List Customer) :
    ∃ ranked : List Customer,
      (tour (customers.map Customer.item)).result = .ok () ∧
      Trace.lines (tour (customers.map Customer.item)).trace =
        ["Fluent Search - Basic Usage Demo", "========================================"] ++
        sectionLines "1. Customers whose name or city contains 'Ann' or 'Bristol':"
          ((customers.filter fun c => decide c.IsAnnOrInBristol).map fun c =>
            written c.name ++ " (" ++ written c.city ++ ")") ++
        sectionLines "2. London customers whose name starts with 'C':"
          ((customers.filter fun c => decide c.IsLondonerWithC).map fun c => written c.name) ++
        sectionLines "3. Email addresses ending in '.com', ignoring case:"
          ((customers.filter fun c => decide c.HasComAddress).map fun c => written c.email) ++
        sectionLines "4. Notes ranked by mentions of the whole word 'call':"
          (ranked.map fun c => toString c.callCount ++ " hit(s): " ++ written c.name) ++
        sectionLines "5. Declarative request:"
          ((customers.filter fun c => decide c.IsAboutBillingCall).map fun c => written c.name) ∧
      ranked.Perm (customers.filter fun c => decide c.MentionsCall) ∧
      (∀ c ∈ ranked, 1 ≤ c.callCount) ∧
      ranked.Pairwise (fun c d => d.callCount ≤ c.callCount) ∧
      ∀ count, ranked.filter (fun c => c.callCount = count) =
        (customers.filter fun c => decide c.MentionsCall).filter fun c => c.callCount = count := by
  obtain ⟨ranked, hranking, hperm, hfalling, hstable⟩ := prints_ranking customers
  have htour : Prints (tour (customers.map Customer.item)) () _ :=
    (Prints.print _).bind ((Prints.print _).bind
      ((prints_containment customers).bind ((prints_nesting customers).bind
        ((prints_endings customers).bind (hranking.bind (prints_requesting customers))))))
  have hpos : ∀ c ∈ ranked, 1 ≤ c.callCount := fun c hc =>
    Customer.callCount_pos (of_decide_eq_true (List.mem_filter.mp (hperm.mem_iff.mp hc)).2)
  refine ⟨ranked, htour.result, ?_, hperm, hpos, hfalling, hstable⟩
  rw [List.append_assoc, List.append_assoc, List.append_assoc, List.append_assoc]
  exact htour.lines

end TermSearch.Demo
