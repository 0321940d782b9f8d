import Mathlib.Data.List.Forall2
import Pushdown.Postgres.Adapter
import Pushdown.Proofs.Outcome

/-!
# `Proofs.Postgres.Validation` — which options make an adapter

An adapter is built from a map of texts. Six conditions are checked, one after the other, and the first that does
not hold decides the refusal. Each condition reads its texts in its own way: keys and mappings as they stand, the
dialect in any ASCII case, levels and entries without blanks around them as well. Once all six hold, the level and
the mapping are read a second time to start logging and to fold names; nothing is left then that could be refused.

## Contents

* `Properties.knownKeys`, `Properties.knownMappings`, `Properties.knownLevels` — the texts that are known.
* `Properties.KeysKnown`, …, `Properties.ErrorsIgnorable` — the six conditions, on the texts themselves.
* `Requirement`, `Requirement.inOrder` — the conditions in order, with the number and the subject of their refusals.
* `Requirement.Decides`, `inTurn_of_decides` — a check decides its condition; so does a sequence of checks.
* `decides_keys`, …, `decides_ignored` — the six checks.
* `Adapter.options_are_checked_in_order` — when an adapter is built, what it is like, and the refusal otherwise.
-/

namespace Pushdown

/-! ## Conditions on options -/

namespace Properties

/-- The keys of options that an adapter knows. -/
def knownKeys : List String :=
  ["CONNECTION_NAME", "CATALOG_NAME", "SCHEMA_NAME", "IGNORE_ERRORS", "SQL_DIALECT", "LOG_LEVEL",
    "POSTGRESQL_IDENTIFIER_MAPPING"]

/-- The words for the two foldings of names. -/
def knownMappings : List String := ["CONVERT_TO_UPPER", "PRESERVE_ORIGINAL_CASE"]

/-- The names of log levels, from the most talkative to none. -/
def knownLevels : List String :=
  ["ALL", "FINEST", "FINER", "FINE", "CONFIG", "INFO", "WARNING", "SEVERE", "OFF"]

/-- Every key is one that the adapter knows. -/
def KeysKnown (p : Properties) : Prop := ∀ key ∈ p.keys, key ∈ knownKeys

/-- There is a connection. -/
def Connected (p : Properties) : Prop := ∃ name, p.get? "CONNECTION_NAME" = some name

/-- The dialect, if it is given, is PostgreSQL in any ASCII case. -/
def DialectFits (p : Properties) : Prop :=
  ∀ dialect, p.get? "SQL_DIALECT" = some dialect → Text.asciiUpper dialect = "POSTGRESQL"

/-- The mapping of names, if it is given, is one of two words. -/
def MappingKnown (p : Properties) : Prop :=
  ∀ value, p.get? "POSTGRESQL_IDENTIFIER_MAPPING" = some value → value ∈ knownMappings

/-- The log level, if it is given, is known; blanks around it and the case of ASCII letters do not matter. -/
def LevelKnown (p : Properties) : Prop :=
  ∀ level, p.get? "LOG_LEVEL" = some level → Text.asciiUpper (Text.trim level) ∈ knownLevels

/-- The pieces of the list of errors to pass over that are not blank. -/
def ignoredPieces (p : Properties) : List String :=
  match p.get? "IGNORE_ERRORS" with
  | some list => (Text.split ',' list).filter fun piece => Text.trim piece ≠ ""
  | none => []

/-- A piece as it is compared. -/
def entryOf (piece : String) : String := Text.asciiUpper (Text.trim piece)

/-- Every error to pass over is the one that can be. -/
def ErrorsIgnorable (p : Properties) : Prop :=
  ∀ piece ∈ p.ignoredPieces, entryOf piece = "POSTGRESQL_UPPERCASE_TABLES"

/-- The smallest key that the adapter does not know. -/
def SmallestUnknown (p : Properties) (key : String) : Prop :=
  key ∈ p.keys ∧ key ∉ knownKeys ∧ ∀ other ∈ p.keys, other ∉ knownKeys → other ≠ key → key < other

/-- The first error to pass over that cannot be. -/
def FirstUnknown (p : Properties) (entry : String) : Prop :=
  ∃ before piece after, p.ignoredPieces = before ++ piece :: after ∧
    (∀ b ∈ before, entryOf b = "POSTGRESQL_UPPERCASE_TABLES") ∧
    entryOf piece = entry ∧ entry ≠ "POSTGRESQL_UPPERCASE_TABLES"

section Decisions

variable (p : Properties)

-- Each condition can be evaluated, so that options can be tried against all six.

instance : Decidable p.KeysKnown := inferInstanceAs (Decidable (∀ key ∈ p.keys, key ∈ knownKeys))

instance : Decidable p.Connected :=
  decidable_of_iff ((p.get? "CONNECTION_NAME").isSome = true) Option.isSome_iff_exists

instance : Decidable p.DialectFits :=
  inferInstanceAs (Decidable (∀ dialect ∈ p.get? "SQL_DIALECT", Text.asciiUpper dialect = "POSTGRESQL"))

instance : Decidable p.MappingKnown :=
  inferInstanceAs (Decidable (∀ value ∈ p.get? "POSTGRESQL_IDENTIFIER_MAPPING", value ∈ knownMappings))

instance : Decidable p.LevelKnown :=
  inferInstanceAs (Decidable (∀ level ∈ p.get? "LOG_LEVEL", Text.asciiUpper (Text.trim level) ∈ knownLevels))

instance : Decidable p.ErrorsIgnorable :=
  inferInstanceAs (Decidable (∀ piece ∈ p.ignoredPieces, entryOf piece = "POSTGRESQL_UPPERCASE_TABLES"))

end Decisions

end Properties

/-- A condition on options, with the number of the code that its violation is refused with and what the refusal is
then about. -/
structure Requirement where
  number : Nat
  holds : Properties → Prop
  about : Properties → Context → Prop

namespace Requirement

open Properties

/-- The condition on keys. -/
def keys : Requirement where
  number := 3003
  holds := KeysKnown
  about p c := ∃ key, p.SmallestUnknown key ∧ c = .property key none knownKeys

/-- The condition on the connection. -/
def connection : Requirement where
  number := 3004
  holds := Connected
  about _ c := c = .property "CONNECTION_NAME" none []

/-- The condition on the dialect. -/
def dialect : Requirement where
  number := 3006
  holds := DialectFits
  about p c := ∃ value, p.get? "SQL_DIALECT" = some value ∧
    c = .property "SQL_DIALECT" (some value) ["POSTGRESQL"]

/-- The condition on the mapping of names. -/
def mapping : Requirement where
  number := 3001
  holds := MappingKnown
  about p c := ∃ value, p.get? "POSTGRESQL_IDENTIFIER_MAPPING" = some value ∧
    c = .property "POSTGRESQL_IDENTIFIER_MAPPING" (some value) knownMappings

/-- The condition on the log level. -/
def level : Requirement where
  number := 3008
  holds := LevelKnown
  about p c := ∃ value, p.get? "LOG_LEVEL" = some value ∧
    c = .property "LOG_LEVEL" (some value) knownLevels

/-- The condition on the errors to pass over. -/
def ignored : Requirement where
  number := 3002
  holds := ErrorsIgnorable
  about p c := ∃ entry, p.FirstUnknown entry ∧
    c = .property "IGNORE_ERRORS" (some entry) ["POSTGRESQL_UPPERCASE_TABLES"]

/-- The conditions on options, in the order in which they are checked. -/
def inOrder : List Requirement := [keys, connection, dialect, mapping, level, ignored]

end Requirement

/-! ## Checks in sequence -/

/-- The error is what a violation of the condition is refused with. -/
def Requirement.Refuses (r : Requirement) (p : Properties) (e : ConfigError) : Prop :=
  e.code.number = r.number ∧ r.about p e.context

/-- The outcome of a check says whether the condition holds. -/
def Requirement.Decides (p : Properties) (r : Requirement) (outcome : Except ConfigError Unit) : Prop :=
  (r.holds p → outcome = .ok ()) ∧ (¬ r.holds p → ∃ e, outcome = .error e ∧ r.Refuses p e)

/-- The condition does not hold, all those before it do. -/
def IsFirstViolated (p : Properties) (r : Requirement) (rs : List Requirement) : Prop :=
  ∃ before after, rs = before ++ r :: after ∧ (∀ b ∈ before, b.holds p) ∧ ¬ r.holds p

theorem IsFirstViolated.mem {p : Properties} {r : Requirement} {rs : List Requirement}
    (h : IsFirstViolated p r rs) : r ∈ rs ∧ ¬ r.holds p := by
  obtain ⟨before, after, rfl, -, hnot⟩ := h
  exact ⟨List.mem_append_right before List.mem_cons_self, hnot⟩

/-- If the first condition does not hold, no other is the first that is violated. -/
theorem IsFirstViolated.eq_head {p : Properties} {r first : Requirement} {rs : List Requirement}
    (h : IsFirstViolated p r (first :: rs)) (hfirst : ¬ first.holds p) : r = first := by
  obtain ⟨before, after, hsplit, hbefore, -⟩ := h
  cases before with
  | nil => exact (List.cons.inj hsplit).1.symm
  | cons b before =>
    obtain ⟨rfl, -⟩ := List.cons.inj hsplit
    exact absurd (hbefore _ List.mem_cons_self) hfirst

/-- Checks one after the other, up to the first that refuses. -/
def inTurn : List (Except ConfigError Unit) → Except ConfigError Unit
  | [] => .ok ()
  | outcome :: outcomes => outcome.bind fun _ => inTurn outcomes

/-- Checks in sequence succeed if all conditions hold; otherwise the first violation is what is refused. -/
theorem inTurn_of_decides {p : Properties} {rs : List Requirement} {outcomes : List (Except ConfigError Unit)}
    (h : List.Forall₂ (Requirement.Decides p) rs outcomes) :
    ((∀ r ∈ rs, r.holds p) ∧ inTurn outcomes = .ok ()) ∨
      ∃ r e, IsFirstViolated p r rs ∧ inTurn outcomes = .error e ∧ r.Refuses p e := by
  induction h with
  | nil => exact .inl ⟨by simp, rfl⟩
  | @cons r outcome rs outcomes hdecides _ ih =>
    rw [inTurn]
    by_cases hr : r.holds p
    · -- the first condition holds, so that the others decide
      rw [hdecides.1 hr]
      rcases ih with ⟨hall, hok⟩ | ⟨s, e, ⟨before, after, hsplit, hbefore, hs⟩, herror, hrefuses⟩
      · exact .inl ⟨List.forall_mem_cons.mpr ⟨hr, hall⟩, hok⟩
      · refine .inr ⟨s, e, ⟨r :: before, after, ?_, ?_, hs⟩, herror, hrefuses⟩
        · rw [hsplit, List.cons_append]
        · exact List.forall_mem_cons.mpr ⟨hr, hbefore⟩
    · obtain ⟨e, herror, hrefuses⟩ := hdecides.2 hr
      refine .inr ⟨r, e, ⟨[], rs, rfl, by simp, hr⟩, ?_, hrefuses⟩
      rw [herror]
      rfl

/-! ## The six checks -/

section Checks

variable (p : Properties)

/-- The keys of options are in order, so that the first unknown key is the smallest. -/
theorem smallestUnknown_of_find {key : String}
    (h : p.keys.find? (fun key => !Properties.knownKeys.contains key) = some key) :
    p.SmallestUnknown key := by
  obtain ⟨hkey, before, after, hsplit, hbefore⟩ := List.find?_eq_some_iff_append.mp h
  have hsorted : (before ++ key :: after).Pairwise (· < ·) := hsplit ▸ p.sorted
  refine ⟨?_, by simpa using hkey, ?_⟩
  · rw [hsplit]
    exact List.mem_append_right before List.mem_cons_self
  · intro other hother hunknown hne
    rw [hsplit, List.mem_append, List.mem_cons] at hother
    rcases hother with hmem | rfl | hmem
    · -- an unknown key before this one would have been found
      have hknown := hbefore other hmem
      simp [hunknown] at hknown
    · exact absurd rfl hne
    · rw [List.pairwise_append, List.pairwise_cons] at hsorted
      exact hsorted.2.1.1 other hmem

/-- The first key that is not known is looked for; there is none exactly if all are known. -/
theorem decides_keys : Requirement.keys.Decides p (Adapter.checkKeys p) := by
  have hkeys : Adapter.supportedKeys = Properties.knownKeys := rfl
  unfold Adapter.checkKeys
  rw [hkeys]
  cases hfind : p.keys.find? fun key => !Properties.knownKeys.contains key with
  | none =>
    have hknown : p.KeysKnown := by
      intro key hkey
      have h := List.find?_eq_none.mp hfind key hkey
      simpa using h
    exact ⟨fun _ => rfl, fun hnot => absurd hknown hnot⟩
  | some key =>
    have hsmallest := smallestUnknown_of_find p hfind
    refine ⟨fun hknown => absurd (hknown key hsmallest.1) hsmallest.2.1, fun _ => ?_⟩
    exact ⟨_, rfl, rfl, key, hsmallest, rfl⟩

theorem decides_connection : Requirement.connection.Decides p (Adapter.checkConnection p) := by
  unfold Adapter.checkConnection Properties.connection?
  cases hname : p.get? Properties.connectionKey with
  | none =>
    refine ⟨?_, fun _ => ⟨_, rfl, rfl, rfl⟩⟩
    rintro ⟨name, hsome⟩
    cases hname.symm.trans hsome
  | some name => exact ⟨fun _ => rfl, fun hnot => absurd ⟨name, hname⟩ hnot⟩

/-- A condition on the value of a key holds if the key has no value. -/
theorem decides_absent {r : Requirement} {key : String} {good : String → Prop}
    (hr : r.holds p ↔ ∀ value, p.get? key = some value → good value) (h : p.get? key = none) :
    r.Decides p (.ok ()) := by
  refine ⟨fun _ => rfl, fun hnot => absurd (hr.mpr ?_) hnot⟩
  intro value hvalue
  rw [h] at hvalue
  cases hvalue

/-- A condition on the value of a key is decided by a test of the value that it has. -/
theorem decides_value {r : Requirement} {key value : String} {good : String → Prop}
    {outcome : Except ConfigError Unit}
    (hr : r.holds p ↔ ∀ value, p.get? key = some value → good value) (h : p.get? key = some value)
    (hgood : good value → outcome = .ok ())
    (hbad : ¬ good value → ∃ e, outcome = .error e ∧ r.Refuses p e) : r.Decides p outcome := by
  refine ⟨fun hholds => hgood (hr.mp hholds value h), fun hnot => hbad fun hvalue => hnot ?_⟩
  rw [hr]
  intro other hother
  rw [h] at hother
  cases hother
  exact hvalue

/-- The dialect is compared without regard to case. -/
theorem decides_dialect : Requirement.dialect.Decides p (Adapter.checkDialect p) := by
  cases hvalue : p.get? Properties.dialectKey with
  | none =>
    rw [Adapter.checkDialect, hvalue]
    exact decides_absent p Iff.rfl hvalue
  | some value =>
    have hsame : Text.sameIgnoringCase value Dialect.postgresName ↔
        Text.asciiUpper value = "POSTGRESQL" := by
      rw [Text.sameIgnoringCase, beq_iff_eq]
      rfl
    refine decides_value p Iff.rfl hvalue ?_ ?_
    · intro hgood
      simp only [Adapter.checkDialect, hvalue, if_pos (hsame.mpr hgood)]
    · intro hbad
      simp only [Adapter.checkDialect, hvalue, if_neg fun h => hbad (hsame.mp h)]
      exact ⟨_, rfl, rfl, value, hvalue, rfl⟩

/-- A mapping that is neither of the two words is refused. -/
theorem parse_eq_error {value : String} (hupper : value ≠ "CONVERT_TO_UPPER")
    (hpreserve : value ≠ "PRESERVE_ORIGINAL_CASE") :
    CaseFolding.parse value =
      .error (.identifierMapping CaseFolding.property value Properties.knownMappings) := by
  have hlookup : CaseFolding.variants.lookup value = none := by
    rw [List.lookup_eq_none_iff]
    intro entry hentry
    rcases List.mem_pair.mp hentry with rfl | rfl
    · exact bne_iff_ne.mpr hupper
    · exact bne_iff_ne.mpr hpreserve
  unfold CaseFolding.parse
  rw [hlookup]
  rfl

/-- The mapping is read here and thrown away: whether it can be read is all that counts. -/
theorem decides_mapping :
    Requirement.mapping.Decides p ((CaseFolding.ofProperties p).map fun _ => ()) := by
  cases hvalue : p.get? CaseFolding.property with
  | none =>
    rw [CaseFolding.ofProperties, hvalue]
    exact decides_absent p Iff.rfl hvalue
  | some value =>
    rw [CaseFolding.ofProperties, hvalue]
    refine decides_value p Iff.rfl hvalue ?_ ?_
    · intro hgood
      rcases List.mem_pair.mp hgood with rfl | rfl
      · rfl
      · rfl
    · intro hbad
      rw [Properties.knownMappings, List.mem_pair, not_or] at hbad
      show ∃ e, (CaseFolding.parse value).map _ = .error e ∧ _
      rw [parse_eq_error hbad.1 hbad.2]
      exact ⟨_, rfl, rfl, value, hvalue, rfl⟩

/-- A text names a level if it is one of the names once blanks and case are out of the way. -/
theorem ofName?_eq_none_iff {text : String} :
    LogLevel.ofName? text = none ↔ Text.asciiUpper (Text.trim text) ∉ LogLevel.names := by
  unfold LogLevel.ofName? LogLevel.names
  rw [List.find?_eq_none, List.mem_map]
  constructor
  · rintro h ⟨level, hmem, hname⟩
    exact h level hmem (beq_iff_eq.mpr hname)
  · intro h level hmem hname
    exact h ⟨level, hmem, beq_iff_eq.mp hname⟩

/-- The log level is looked up among the names, without blanks and in upper case. -/
theorem decides_level : Requirement.level.Decides p (Adapter.checkLogLevel p) := by
  cases hvalue : p.get? Properties.logLevelKey with
  | none =>
    rw [Adapter.checkLogLevel, hvalue]
    exact decides_absent p Iff.rfl hvalue
  | some value =>
    rw [Adapter.checkLogLevel, hvalue]
    refine decides_value p Iff.rfl hvalue ?_ ?_
    · intro hgood
      cases hlevel : LogLevel.ofName? value with
      | some level => simp only [hlevel]
      | none => exact absurd hgood (ofName?_eq_none_iff.mp hlevel)
    · intro hbad
      have hlevel : LogLevel.ofName? value = none := ofName?_eq_none_iff.mpr hbad
      simp only [hlevel]
      exact ⟨_, rfl, rfl, value, hvalue, rfl⟩

/-- A text is empty in upper case only if it is empty. -/
theorem asciiUpper_eq_empty_iff {s : String} : Text.asciiUpper s = "" ↔ s = "" := by
  unfold Text.asciiUpper
  rw [← String.toList_inj, String.toList_ofList, ← String.toList_inj]
  simp

/-- The errors to pass over are the pieces that are not blank, as they are compared. -/
theorem ignoredErrors_eq : p.ignoredErrors = p.ignoredPieces.map Properties.entryOf := by
  unfold Properties.ignoredErrors Properties.ignoredPieces Properties.ignoreKey
  cases p.get? "IGNORE_ERRORS" with
  | none => rfl
  | some list =>
    show Properties.errorEntries list = _
    unfold Properties.errorEntries
    rw [List.filter_map]
    refine congrArg (List.map Properties.entryOf) (List.filter_congr ?_)
    intro piece _
    simp only [Function.comp_apply, ne_eq, asciiUpper_eq_empty_iff]

/-- The entries are looked through in order. The first that cannot be passed over stands behind pieces that all can,
whatever blank pieces lie between them. -/
theorem decides_ignored : Requirement.ignored.Decides p (Adapter.checkIgnored p) := by
  unfold Adapter.checkIgnored
  cases hfind : p.ignoredErrors.find? fun entry => !Adapter.ignorableErrors.contains entry with
  | none =>
    have hall : p.ErrorsIgnorable := by
      intro piece hpiece
      have hentry : Properties.entryOf piece ∈ p.ignoredErrors := by
        rw [ignoredErrors_eq]
        exact List.mem_map_of_mem hpiece
      have h := List.find?_eq_none.mp hfind _ hentry
      simpa [Adapter.ignorableErrors, TableFilter.switch] using h
    exact ⟨fun _ => rfl, fun hnot => absurd hall hnot⟩
  | some entry =>
    have hfirst : p.FirstUnknown entry := by
      rw [ignoredErrors_eq] at hfind
      obtain ⟨hentry, before, after, hsplit, hbefore⟩ := List.find?_eq_some_iff_append.mp hfind
      obtain ⟨pre, rest, hpieces, rfl, hrest⟩ := List.map_eq_append_iff.mp hsplit
      obtain ⟨piece, post, rfl, rfl, rfl⟩ := List.map_eq_cons_iff.mp hrest
      refine ⟨pre, piece, post, hpieces, ?_, rfl, ?_⟩
      · intro b hb
        have h := hbefore _ (List.mem_map_of_mem hb)
        simpa [Adapter.ignorableErrors, TableFilter.switch] using h
      · simpa [Adapter.ignorableErrors, TableFilter.switch] using hentry
    refine ⟨?_, fun _ => ⟨_, rfl, rfl, entry, hfirst, rfl⟩⟩
    intro hall
    obtain ⟨before, piece, after, hsplit, -, rfl, hne⟩ := hfirst
    refine absurd (hall piece ?_) hne
    rw [hsplit]
    exact List.mem_append_right before List.mem_cons_self

end Checks

/-! ## Building an adapter -/

namespace Adapter

variable {p : Properties}

/-- The outcomes of the checks, in order. -/
def outcomes (p : Properties) : List (Except ConfigError Unit) :=
  [checkKeys p, checkConnection p, checkDialect p, (CaseFolding.ofProperties p).map fun _ => (),
    checkLogLevel p, checkIgnored p]

/-- The six checks are done one after the other. -/
theorem check_eq_inTurn (p : Properties) : check p = inTurn (outcomes p) := by
  show ((checkKeys p).bind fun _ => (checkConnection p).bind fun _ => (checkDialect p).bind fun _ =>
    (CaseFolding.ofProperties p).bind fun _ => (checkLogLevel p).bind fun _ => checkIgnored p) = _
  unfold outcomes
  simp only [inTurn]
  congr 1
  funext _
  congr 1
  funext _
  congr 1
  funext _
  -- the folding that is read here is of no use yet
  cases CaseFolding.ofProperties p with
  | error e => rfl
  | ok folding =>
    show (checkLogLevel p).bind _ = (checkLogLevel p).bind _
    congr 1
    funext _
    cases checkIgnored p with
    | error e => rfl
    | ok u => rfl

theorem outcomes_decide (p : Properties) :
    List.Forall₂ (Requirement.Decides p) Requirement.inOrder (outcomes p) :=
  .cons (decides_keys p) <| .cons (decides_connection p) <| .cons (decides_dialect p) <|
    .cons (decides_mapping p) <| .cons (decides_level p) <| .cons (decides_ignored p) .nil

/-- The directive of every level is one that the log filter understands. -/
theorem isFilter_directive (level : LogLevel) : isFilter level.directive = true := by
  cases level <;> decide +kernel

/-- Logging starts with any level that passes its check. -/
theorem startLoggingFor_eq_ok (h : p.LevelKnown) : startLoggingFor p = .ok () := by
  unfold startLoggingFor
  cases hvalue : p.get? Properties.logLevelKey with
  | none => exact if_pos (isFilter_directive .info)
  | some value =>
    cases hlevel : LogLevel.ofName? value with
    | none => exact absurd (h value hvalue) (ofName?_eq_none_iff.mp hlevel)
    | some level =>
      simp only [hlevel]
      exact if_pos (isFilter_directive level)

/-- A mapping that passes its check is read as the folding of that name. -/
theorem ofProperties_eq_ok (h : p.MappingKnown) :
    ∃ folding, CaseFolding.ofProperties p = .ok folding ∧
      (p.get? "POSTGRESQL_IDENTIFIER_MAPPING" = none → folding = .convertToUpper) ∧
      ∀ value, p.get? "POSTGRESQL_IDENTIFIER_MAPPING" = some value → folding.name = value := by
  unfold CaseFolding.ofProperties CaseFolding.property
  cases hvalue : p.get? "POSTGRESQL_IDENTIFIER_MAPPING" with
  | none => exact ⟨.convertToUpper, rfl, fun _ => rfl, nofun⟩
  | some value =>
    rcases List.mem_pair.mp (h value hvalue) with rfl | rfl
    · refine ⟨.convertToUpper, rfl, nofun, ?_⟩
      rintro _ ⟨⟩
      rfl
    · refine ⟨.preserveCase, rfl, nofun, ?_⟩
      rintro _ ⟨⟩
      rfl

/-- If every error to pass over can be, any of them turns the switch on. -/
theorem ignores_switch_iff (h : p.ErrorsIgnorable) :
    p.ignores TableFilter.switch = true ↔ p.ignoredPieces ≠ [] := by
  rw [Properties.ignores, List.contains_iff_mem, ignoredErrors_eq, List.mem_map]
  constructor
  · rintro ⟨piece, hpiece, -⟩ hnil
    rw [hnil] at hpiece
    cases hpiece
  · intro hne
    obtain ⟨piece, hpiece⟩ := List.exists_mem_of_ne_nil _ hne
    exact ⟨piece, hpiece, h piece hpiece⟩

/-- Options that fail a check are refused for it, and nothing else is tried. -/
theorem result_create_of_error {e : ConfigError} (h : check p = .error e) :
    (create p).result = .error e.toFailure := by
  unfold create
  rw [h]
  rfl

/-- Once all conditions hold, what is read again is read without refusal. -/
theorem result_create_of_ok {folding : CaseFolding} (h : check p = .ok ())
    (hlogging : startLoggingFor p = .ok ()) (hfolding : CaseFolding.ofProperties p = .ok folding) :
    (create p).result =
      .ok { properties := p, filter := ⟨folding, p.ignores TableFilter.switch⟩ } := by
  unfold create
  rw [h, hlogging, hfolding]
  rfl

/-- The thousands of a code say that the configuration is at fault. -/
theorem isConfig_of_number {f : Failure} (h : f.code.number / 1000 = 3) : f.isConfig = true := by
  unfold Failure.isConfig Failure.category Code.category
  rw [h]
  rfl

/-- Every condition is refused with a code of the configuration, and about an option. -/
theorem refuses_config {r : Requirement} (hr : r ∈ Requirement.inOrder) {e : ConfigError}
    (h : r.Refuses p e) :
    e.toFailure.isConfig = true ∧ ∃ key value allowed, e.context = .property key value allowed := by
  have hthree : ∀ r ∈ Requirement.inOrder, r.number / 1000 = 3 := by decide
  refine ⟨isConfig_of_number (h.1 ▸ hthree r hr), ?_⟩
  have habout := h.2
  simp only [Requirement.inOrder, List.mem_cons, List.not_mem_nil, or_false] at hr
  rcases hr with rfl | rfl | rfl | rfl | rfl | rfl
  · obtain ⟨key, -, hcontext⟩ := habout
    exact ⟨_, _, _, hcontext⟩
  · exact ⟨_, _, _, habout⟩
  all_goals
    obtain ⟨value, -, hcontext⟩ := habout
    exact ⟨_, _, _, hcontext⟩

/-- **Options are checked exactly, and in a fixed order.** An adapter is built if and only if all six conditions hold.
Otherwise the refusal is a matter of configuration, has a hint, and bears the code and the option of the first
condition that does not hold; of several keys it names the smallest, of several entries the first. An adapter that is
built folds names as the options ask, in upper case if they do not, and passes over tables with upper-case names if
and only if some piece of the list of errors is not blank. -/
theorem options_are_checked_in_order (p : Properties) :
    ((∃ a, (create p).result = .ok a) ↔
      p.KeysKnown ∧ p.Connected ∧ p.DialectFits ∧ p.MappingKnown ∧ p.LevelKnown ∧ p.ErrorsIgnorable) ∧
    (∀ f, (create p).result = .error f →
      f.isConfig = true ∧ f.hint.isSome = true ∧
        ∃ r key value allowed, IsFirstViolated p r Requirement.inOrder ∧ f.code.number = r.number ∧
          f.context = some (.property key value allowed) ∧ r.about p (.property key value allowed)) ∧
    (∀ a, (create p).result = .ok a →
      a.properties = p ∧
        (p.get? "POSTGRESQL_IDENTIFIER_MAPPING" = none → a.folding = .convertToUpper) ∧
        (∀ value, p.get? "POSTGRESQL_IDENTIFIER_MAPPING" = some value → a.folding.name = value) ∧
        (a.filter.ignoresUppercase = true ↔ p.ignoredPieces ≠ [])) := by
  have hall : (∀ r ∈ Requirement.inOrder, r.holds p) ↔
      p.KeysKnown ∧ p.Connected ∧ p.DialectFits ∧ p.MappingKnown ∧ p.LevelKnown ∧ p.ErrorsIgnorable := by
    simp only [Requirement.inOrder, List.forall_mem_cons, List.not_mem_nil, false_implies,
      implies_true, and_true]
    exact Iff.rfl
  rcases inTurn_of_decides (outcomes_decide p) with ⟨hholds, hok⟩ | ⟨r, e, hfirst, herror, hrefuses⟩
  · rw [← check_eq_inTurn] at hok
    obtain ⟨-, -, -, hmapping, hlevel, hignored⟩ := hall.mp hholds
    obtain ⟨folding, hfolding, hdefault, hname⟩ := ofProperties_eq_ok hmapping
    have hresult := result_create_of_ok hok (startLoggingFor_eq_ok hlevel) hfolding
    refine ⟨⟨fun _ => hall.mp hholds, fun _ => ⟨_, hresult⟩⟩, ?_, ?_⟩
    · intro f hf
      rw [hresult] at hf
      cases hf
    · intro a ha
      rw [hresult] at ha
      cases ha
      exact ⟨rfl, hdefault, hname, ignores_switch_iff hignored⟩
  · rw [← check_eq_inTurn] at herror
    have hresult := result_create_of_error herror
    obtain ⟨hmem, hnot⟩ := hfirst.mem
    obtain ⟨hconfig, key, value, allowed, hcontext⟩ := refuses_config hmem hrefuses
    refine ⟨⟨?_, fun hconditions => absurd (hall.mpr hconditions r hmem) hnot⟩, ?_, ?_⟩
    · rintro ⟨a, ha⟩
      rw [hresult] at ha
      cases ha
    · intro f hf
      rw [hresult] at hf
      cases hf
      refine ⟨hconfig, rfl, r, key, value, allowed, hfirst, hrefuses.1, congrArg some hcontext, ?_⟩
      rw [← hcontext]
      exact hrefuses.2
    · intro a ha
      rw [hresult] at ha
      cases ha

/-- Options with a fault of every kind are refused for the smallest key that is unknown. Options that hold one text
for each condition, with blanks and letters of either case where they do not matter, make an adapter that is as they
ask. -/
theorem faulty_options_refused_sound_accepted :
    let faulty := Properties.ofList [("ZONE", "1"), ("APPLE", "2"), ("SQL_DIALECT", "ORACLE"),
      ("POSTGRESQL_IDENTIFIER_MAPPING", "convert_to_upper"), ("LOG_LEVEL", "LOUD"), ("IGNORE_ERRORS", "ALL")]
    let sound := Properties.ofList [("CONNECTION_NAME", "C"), ("SQL_DIALECT", "PostgreSQL"),
      ("POSTGRESQL_IDENTIFIER_MAPPING", "PRESERVE_ORIGINAL_CASE"), ("LOG_LEVEL", " fine "),
      ("IGNORE_ERRORS", " ,postgresql_uppercase_tables ")]
    (∃ f, (create faulty).result = .error f ∧ f.isConfig = true ∧ f.code.number = 3003 ∧
      f.context = some (.property "APPLE" none ["CONNECTION_NAME", "CATALOG_NAME", "SCHEMA_NAME",
        "IGNORE_ERRORS", "SQL_DIALECT", "LOG_LEVEL", "POSTGRESQL_IDENTIFIER_MAPPING"])) ∧
    ∃ a, (create sound).result = .ok a ∧ a.properties = sound ∧
      a.folding.name = "PRESERVE_ORIGINAL_CASE" ∧ a.filter.ignoresUppercase = true := by
  intro faulty sound
  constructor
  · obtain ⟨hbuilt, hrefused, -⟩ := options_are_checked_in_order faulty
    have hkeys : ¬ faulty.KeysKnown := by decide +kernel
    cases hresult : (create faulty).result with
    | ok a => exact absurd (hbuilt.mp ⟨a, hresult⟩).1 hkeys
    | error f =>
      obtain ⟨hconfig, -, r, key, value, allowed, hfirst, hnumber, hcontext, habout⟩ := hrefused f hresult
      obtain rfl := hfirst.eq_head hkeys
      obtain ⟨smallest, ⟨hmem, -, hleast⟩, hproperty⟩ := habout
      have happle : smallest = "APPLE" := by
        by_contra hne
        have hlt : smallest < "APPLE" := hleast _ (by decide +kernel) (by decide) fun h => hne h.symm
        have hnone : ∀ other ∈ faulty.keys, ¬ other < "APPLE" := by decide +kernel
        exact hnone smallest hmem hlt
      refine ⟨f, rfl, hconfig, hnumber, ?_⟩
      rw [hcontext, hproperty, happle]
      rfl
  · obtain ⟨hbuilt, -, hadapter⟩ := options_are_checked_in_order sound
    obtain ⟨a, ha⟩ := hbuilt.mpr (by decide +kernel)
    obtain ⟨hproperties, -, hfolding, hignores⟩ := hadapter a ha
    exact ⟨a, ha, hproperties, hfolding _ (by decide +kernel), hignores.mpr (by decide +kernel)⟩

end Adapter

end Pushdown
