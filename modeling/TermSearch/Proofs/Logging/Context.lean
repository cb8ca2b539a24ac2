import TermSearch.Logging.Logger
import TermSearch.Proofs.Value.Fields

/-!
# Contexts of Derived Loggers

What the context of a logger is that was derived from another one by adding contexts in turn. All of
it is told by the layers: the context of the first logger, and the contexts that were added. A name
stands where the first layer has it that has it at all, and has the value of the last such layer. So
nothing is seen of how the layers were added, and a single context that merges them does as well.

## Main definitions

- `LogContext.merge`: what contexts come to among themselves.
- `LogContext.namesIn`, `LogContext.valueIn?`: the names in layers, and the value of a name.

## Main statements

- `Logger.addContexts_eq_ok`, `Logger.addContexts_eq_error`: when contexts can be added.
- `LogContext.annotate_of_nodup`: what a logger writes behind a message, name by name.
- `Logger.contexts_compose`: the logger that comes of adding contexts in turn.
-/

namespace TermSearch

namespace LogContext

/-- What contexts come to among themselves. -/
def merge (contexts : List LogContext) : LogContext :=
  contexts.foldl extend []

/-- The names in layers of a context, in the order in which they come up first. -/
def namesIn (layers : List LogContext) : List String :=
  (layers.flatMap Fields.names).eraseDups

/-- The value of a name in the last layer that sets it. -/
def valueIn? (layers : List LogContext) (name : String) : Option Value :=
  (layers.filterMap fun layer => Fields.get? layer name).getLast?

/-- A merge sets the names that its contexts set. -/
theorem mem_names_merge {contexts : List LogContext} {name : String} :
    name ∈ Fields.names (merge contexts) ↔ ∃ updates ∈ contexts, name ∈ Fields.names updates := by
  have hnames : Fields.names (merge contexts) = (contexts.flatMap Fields.names).eraseDups :=
    @Fields.names_foldl_putAll _ [] List.nodup_nil contexts
  rw [hnames, List.mem_eraseDups, List.mem_flatMap]

/-- What is written behind a message, name by name. -/
theorem annotate_of_nodup {context : LogContext} (h : (Fields.names context).Nodup)
    (message : String) :
    context.annotate message =
      if Fields.names context = [] then message
      else message ++ " [" ++ " ".intercalate ((Fields.names context).map fun name =>
        name ++ "=" ++ ((Fields.get? context name).getD .null).display) ++ "]" := by
  have htexts : context.entryTexts = (Fields.names context).map fun name =>
      name ++ "=" ++ ((Fields.get? context name).getD .null).display := by
    refine (congrArg entryTexts (Fields.eq_map_names h .null)).trans ?_
    rw [entryTexts, List.map_map]
    rfl
  rw [annotate, htexts]
  simp only [List.isEmpty_iff, Fields.names, List.map_eq_nil_iff]

end LogContext

namespace Logger

/-! ## Adding contexts -/

/-- A context that does not use the name of the logger itself can be added. -/
theorem addContext_eq_ok {updates : LogContext} (h : ownName ∉ Fields.names updates)
    (logger : Logger) : logger.addContext updates = .ok (logger.withContext updates) := by
  rw [addContext, if_neg]
  simpa using h

theorem addContext_eq_error {updates : LogContext} (h : ownName ∈ Fields.names updates)
    (logger : Logger) : logger.addContext updates = .error (.contextNameTaken ownName) := by
  rw [addContext, if_pos]
  simpa using h

/-- Contexts can be added in turn if each of them can. -/
theorem addContexts_eq_ok {contexts : List LogContext}
    (h : ∀ updates ∈ contexts, ownName ∉ Fields.names updates) (logger : Logger) :
    logger.addContexts contexts = .ok (logger.withContexts contexts) := by
  induction contexts generalizing logger with
  | nil => rfl
  | cons updates rest ih =>
    obtain ⟨hupdates, hrest⟩ := List.forall_mem_cons.mp h
    rw [addContexts, addContext_eq_ok hupdates, withContexts]
    show (logger.withContext updates).addContexts rest >>= _ = _
    rw [ih hrest]
    rfl

/-- Adding contexts in turn fails if one of them cannot be added. -/
theorem addContexts_eq_error {contexts : List LogContext}
    (h : ∃ updates ∈ contexts, ownName ∈ Fields.names updates) (logger : Logger) :
    logger.addContexts contexts = .error (.contextNameTaken ownName) := by
  induction contexts generalizing logger with
  | nil => simp at h
  | cons updates rest ih =>
    rw [addContexts]
    by_cases hupdates : ownName ∈ Fields.names updates
    · rw [addContext_eq_error hupdates]
      rfl
    · have hrest : ∃ updates ∈ rest, ownName ∈ Fields.names updates := by simpa [hupdates] using h
      rw [addContext_eq_ok hupdates]
      show (logger.withContext updates).addContexts rest >>= _ = _
      rw [ih hrest]
      rfl

/-! ## Loggers on the way -/

/-- The last logger has all contexts. -/
theorem getLast?_withContexts (logger : Logger) (contexts : List LogContext) :
    (logger.withContexts contexts).getLast? =
      some { logger with context := contexts.foldl LogContext.extend logger.context } := by
  induction contexts generalizing logger with
  | nil => rfl
  | cons updates rest ih =>
    rw [withContexts, List.getLast?_cons, ih]
    rfl

/-- There is one logger more than there are contexts. -/
theorem length_withContexts (logger : Logger) (contexts : List LogContext) :
    (logger.withContexts contexts).length = contexts.length + 1 := by
  induction contexts generalizing logger with
  | nil => rfl
  | cons updates rest ih => rw [withContexts, List.length_cons, ih, List.length_cons]

/-- The loggers on the way stay as they are when more contexts are added. -/
theorem withContexts_prefix (logger : Logger) (earlier later : List LogContext) :
    logger.withContexts earlier <+: logger.withContexts (earlier ++ later) := by
  induction earlier generalizing logger with
  | nil =>
    -- the logger itself is always the first
    cases later with
    | nil => exact List.prefix_rfl
    | cons updates rest => exact ⟨_, rfl⟩
  | cons updates rest ih =>
    rw [List.cons_append, withContexts, withContexts]
    exact (List.prefix_cons_inj logger).mpr (ih (logger.withContext updates))

/-! ## The last logger -/

/-- Contexts can be added to a logger in turn if none of them uses the name that stands for the
logger itself, and so can their merge. The loggers on the way stay as they were, and the last one is
the one that comes of the merge. Its context has every name once, in the order in which they come up
first, and under each name the value of the last context that sets it. A message is written alone
where no context has a name, and else with all names and their values behind it. -/
theorem contexts_compose {logger : Logger} {contexts : List LogContext}
    (hlogger : (Fields.names logger.context).Nodup)
    (hcontexts : ∀ updates ∈ contexts, (Fields.names updates).Nodup) :
    ((∀ updates ∈ contexts, ownName ∉ Fields.names updates) →
      ∃ loggers last, logger.addContexts contexts = .ok loggers ∧
        loggers.length = contexts.length + 1 ∧ loggers.getLast? = some last ∧
        (∀ earlier later, contexts = earlier ++ later →
          ∃ before, logger.addContexts earlier = .ok before ∧ before <+: loggers) ∧
        logger.addContext (LogContext.merge contexts) = .ok last ∧
        (Fields.names last.context).Nodup ∧
        Fields.names last.context = LogContext.namesIn (logger.context :: contexts) ∧
        (∀ name, Fields.get? last.context name =
          LogContext.valueIn? (logger.context :: contexts) name) ∧
        ∀ severity message, (last.record severity message).message =
          if LogContext.namesIn (logger.context :: contexts) = [] then message
          else message ++ " [" ++ " ".intercalate
            ((LogContext.namesIn (logger.context :: contexts)).map fun name => name ++ "=" ++
              ((LogContext.valueIn? (logger.context :: contexts) name).getD .null).display) ++
            "]") ∧
    ((∃ updates ∈ contexts, ownName ∈ Fields.names updates) →
      logger.addContexts contexts = .error (.contextNameTaken ownName) ∧
      logger.addContext (LogContext.merge contexts) = .error (.contextNameTaken ownName)) := by
  refine ⟨fun hfree => ?_, fun htaken =>
    ⟨addContexts_eq_error htaken logger,
      addContext_eq_error (LogContext.mem_names_merge.mpr htaken) logger⟩⟩
  have hmerge : ownName ∉ Fields.names (LogContext.merge contexts) := by
    rw [LogContext.mem_names_merge]
    rintro ⟨updates, hmem, hname⟩
    exact hfree updates hmem hname
  -- the context of the last logger, as one turn with the merge and by its layers
  have hcontext : contexts.foldl LogContext.extend logger.context =
      logger.context.extend (LogContext.merge contexts) :=
    Fields.foldl_putAll_eq hlogger hcontexts
  have hnames : Fields.names (contexts.foldl LogContext.extend logger.context) =
      LogContext.namesIn (logger.context :: contexts) :=
    Fields.names_foldl_putAll hlogger contexts
  have hvalues : ∀ name, Fields.get? (contexts.foldl LogContext.extend logger.context) name =
      LogContext.valueIn? (logger.context :: contexts) name :=
    Fields.get?_foldl_putAll hcontexts logger.context
  have hnodup : (Fields.names (contexts.foldl LogContext.extend logger.context)).Nodup := by
    rw [hnames]
    exact Fields.nodup_eraseDups _
  refine ⟨logger.withContexts contexts,
    { logger with context := contexts.foldl LogContext.extend logger.context },
    addContexts_eq_ok hfree logger, length_withContexts logger contexts,
    getLast?_withContexts logger contexts, fun earlier later hsplit => ?_, ?_, hnodup, hnames,
    hvalues, fun severity message => ?_⟩
  · subst hsplit
    exact ⟨_, addContexts_eq_ok (List.forall_mem_append.mp hfree).1 logger,
      withContexts_prefix logger earlier later⟩
  · rw [addContext_eq_ok hmerge, withContext, hcontext]
  · rw [record, LogContext.annotate_of_nodup hnodup, hnames]
    simp only [hvalues]

/-- A name that is set again keeps its place, and the value that it had is gone. -/
theorem contexts_compose_of_name_set_again :
    ∃ loggers last,
      (ofName "app").addContexts
          [[("a", .int 1), ("b", .text "x")], [("c", .null), ("a", .int 2)]] = .ok loggers ∧
      loggers.getLast? = some last ∧ Fields.names last.context = ["a", "b", "c"] ∧
      (last.record .info "hello").message = "hello [a=2 b=x c=None]" := by
  have hnodup : ∀ updates ∈ [[("a", Value.int 1), ("b", .text "x")], [("c", .null), ("a", .int 2)]],
      (Fields.names updates).Nodup := by decide
  have hfree : ∀ updates ∈ [[("a", Value.int 1), ("b", .text "x")], [("c", .null), ("a", .int 2)]],
      ownName ∉ Fields.names updates := by decide
  obtain ⟨loggers, last, hloggers, -, hlast, -, -, -, hnames, -, hwritten⟩ :=
    (@contexts_compose (ofName "app") _ List.nodup_nil hnodup).1 hfree
  exact ⟨loggers, last, hloggers, hlast, hnames.trans rfl, (hwritten _ _).trans rfl⟩

/-- A context that uses the name of the logger itself cannot be added, neither in turn nor
merged. -/
theorem contexts_refused_for_own_name :
    (Fields.names (ofName "app").context).Nodup ∧
      (∀ updates ∈ [[("self", Value.int 1)]], (Fields.names updates).Nodup) ∧
      (∀ loggers, (ofName "app").addContexts [[("self", .int 1)]] ≠ .ok loggers) ∧
      ∀ last, (ofName "app").addContext (LogContext.merge [[("self", .int 1)]]) ≠ .ok last := by
  refine ⟨List.nodup_nil, by decide, fun loggers h => ?_, fun last h => ?_⟩
  · rw [addContexts_eq_error ⟨_, List.mem_singleton_self _, by decide⟩] at h
    exact nomatch h
  · rw [addContext_eq_error (by decide)] at h
    exact nomatch h

end Logger

end TermSearch
