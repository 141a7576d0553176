/-
This file shows that a selector is the conjunction of its fields: it accepts the resources that
each field alone accepts, and only labels and annotations that it gets to can make it fail.
-/

import Graft.Proofs.Label.Parts
import Graft.Proofs.Label.Reading
import Graft.Proofs.Selector.LabelSet

namespace Graft

open Result

/-- A blank text is the condition without requirements. -/
theorem Label.parseCondition_blank {text : String} (blank : Text.trim text.toList = []) :
    parseCondition text = .ok ⟨[]⟩ := by
  have part := isPart_blank (Text.isBlank_of_trim_eq_nil blank)
  refine parseCondition_eq_ok_iff.mpr ⟨_, part.splitParts_eq, ?_⟩
  simp [parseParts, blank]

namespace Selector

/-- The fields of a selector. -/
inductive Field where
  | apiVersion
  | group
  | version
  | kind
  | name
  | namespaceName
  | annotations
  | labels
  deriving DecidableEq

/-- The fields that name a single text. The others are conditions on annotations and labels. -/
def Field.IsScalar (field : Field) : Prop := field ≠ .annotations ∧ field ≠ .labels

instance : DecidablePred Field.IsScalar := fun field =>
  inferInstanceAs (Decidable (field ≠ .annotations ∧ field ≠ .labels))

/-- The text that a selector has in a field. -/
def written (selector : Selector) : Field → String
  | .apiVersion => selector.apiVersion
  | .group => selector.group
  | .version => selector.version
  | .kind => selector.kind
  | .name => selector.name
  | .namespaceName => selector.namespaceName
  | .annotations => selector.annotationSelector
  | .labels => selector.labelSelector

/-- A field that is not blank is given. -/
def Given (selector : Selector) (field : Field) : Prop :=
  Text.trimmed (selector.written field) ≠ ""

/-- The selector with a text for each field. -/
def ofFields (texts : Field → String) : Selector where
  apiVersion := texts .apiVersion
  group := texts .group
  version := texts .version
  kind := texts .kind
  name := texts .name
  namespaceName := texts .namespaceName
  annotationSelector := texts .annotations
  labelSelector := texts .labels

@[simp] theorem written_ofFields (texts : Field → String) (field : Field) :
    (ofFields texts).written field = texts field := by
  cases field <;> rfl

/-- The selector that is made of one field alone. -/
def only (selector : Selector) (field : Field) : Selector :=
  ofFields fun other => if other = field then selector.written field else ""

/-- A selector can be compiled, and it gives an answer about a resource. -/
def Answers (selector : Selector) (resource : Resource) (answer : Except Failure Bool) : Prop :=
  ∃ matcher, selector.compile = .ok matcher ∧ matcher.accepts resource = answer

/-- Whether a resource satisfies a text in a field. -/
def Field.Holds (written : String) (resource : Resource) : Field → Prop
  | .apiVersion => Matcher.agrees (wanted? written) resource.apiVersion? = true
  | .group => Matcher.agrees (wanted? written) (some resource.group) = true
  | .version => Matcher.agrees (wanted? written) (some resource.version) = true
  | .kind => Matcher.agrees (wanted? written) resource.kind? = true
  | .name => Matcher.agrees (wanted? written) resource.name? = true
  | .namespaceName => Matcher.agrees (wanted? written) resource.namespace? = true
  | .annotations => ∃ condition, condition? written = .ok condition ∧
      Matcher.conditionHolds condition resource.annotations? = .ok true
  | .labels => ∃ condition, condition? written = .ok condition ∧
      Matcher.conditionHolds condition resource.labels? = .ok true

variable {selector : Selector} {resource : Resource} {matcher : Matcher} {failure : Failure}

/-- A compiled selector wants the texts of the scalar fields, and has the two conditions. -/
theorem compile_eq_ok_iff :
    selector.compile = .ok matcher ↔
      condition? selector.annotationSelector = .ok matcher.annotations ∧
        condition? selector.labelSelector = .ok matcher.labels ∧
          matcher = {
            apiVersion := wanted? selector.apiVersion
            group := wanted? selector.group
            version := wanted? selector.version
            kind := wanted? selector.kind
            name := wanted? selector.name
            namespaceName := wanted? selector.namespaceName
            annotations := matcher.annotations
            labels := matcher.labels
            description := selector.text } := by
  rw [compile, bind_eq_ok]
  constructor
  · rintro ⟨annotations, annotationsRead, rest⟩
    obtain ⟨labels, labelsRead, same⟩ := bind_eq_ok.mp rest
    rw [← Except.ok.inj same]
    exact ⟨annotationsRead, labelsRead, rfl⟩
  · rintro ⟨annotationsRead, labelsRead, same⟩
    refine ⟨matcher.annotations, annotationsRead, ?_⟩
    exact bind_eq_ok.mpr ⟨matcher.labels, labelsRead, congrArg Except.ok same.symm⟩

end Selector

namespace Matcher

variable {selected : Matcher} {resource : Resource} {failure : Selector.Failure}

/-- Where the texts agree, the labels are checked first, and the annotations if the condition on
the labels holds. -/
theorem accepts_of_agrees (agrees : selected.scalarsAgree resource = true) :
    selected.accepts resource =
      (conditionHolds selected.labels resource.labels? >>= fun holds =>
        if holds then conditionHolds selected.annotations resource.annotations?
        else .ok false) := by
  rw [accepts, agrees]
  cases conditionHolds selected.labels resource.labels? with
  | error failure => rfl
  | ok holds => cases holds <;> rfl

/-- Where a text differs, the resource is refused, whatever its labels are. -/
theorem accepts_of_differs (differs : selected.scalarsAgree resource = false) :
    selected.accepts resource = .ok false := by
  rw [accepts, differs]
  rfl

/-- A resource is accepted when its texts agree and both conditions hold. -/
theorem accepts_eq_true_iff :
    selected.accepts resource = .ok true ↔
      selected.scalarsAgree resource = true ∧
        conditionHolds selected.labels resource.labels? = .ok true ∧
          conditionHolds selected.annotations resource.annotations? = .ok true := by
  cases agrees : selected.scalarsAgree resource with
  | false => simp [accepts_of_differs agrees]
  | true =>
      rw [accepts_of_agrees agrees]
      cases conditionHolds selected.labels resource.labels? with
      | error failure => simp
      | ok holds => cases holds <;> simp

/-- A matcher fails when the texts of a resource agree, and its labels cannot be checked or, where
the condition on them holds, its annotations. -/
theorem accepts_eq_error_iff :
    selected.accepts resource = .error failure ↔
      selected.scalarsAgree resource = true ∧
        (conditionHolds selected.labels resource.labels? = .error failure ∨
          conditionHolds selected.labels resource.labels? = .ok true ∧
            conditionHolds selected.annotations resource.annotations? = .error failure) := by
  cases agrees : selected.scalarsAgree resource with
  | false => simp [accepts_of_differs agrees]
  | true =>
      rw [accepts_of_agrees agrees]
      cases conditionHolds selected.labels resource.labels? with
      | error other => simp
      | ok holds => cases holds <;> simp

/-- A condition cannot be checked exactly when there is one and the labels are malformed. -/
theorem conditionHolds_eq_error_iff {condition : Option Label.Condition} {node : Option Node} :
    conditionHolds condition node = .error failure ↔
      condition ≠ none ∧ Malformed node failure := by
  rw [← labelSet_eq_error_iff]
  cases condition with
  | none => simp [conditionHolds]
  | some condition =>
      rw [conditionHolds]
      cases labelSet node with
      | error other => simp [Except.map]
      | ok labels => simp [Except.map]

end Matcher

namespace Selector

variable {selector : Selector} {resource : Resource} {matcher : Matcher} {failure : Failure}

/-- All fields are the scalar ones, the labels and the annotations. -/
theorem Field.forall_iff {property : Field → Prop} :
    (∀ field, property field) ↔
      (∀ field, field.IsScalar → property field) ∧ property .labels ∧ property .annotations := by
  constructor
  · intro each
    exact ⟨fun field _ => each field, each .labels, each .annotations⟩
  · rintro ⟨scalars, labels, annotations⟩ field
    by_cases isLabels : field = .labels
    · rwa [isLabels]
    by_cases isAnnotations : field = .annotations
    · rwa [isAnnotations]
    exact scalars field ⟨isAnnotations, isLabels⟩

/-- The texts of a compiled selector agree when each scalar field holds. -/
theorem scalarsAgree_iff (compiled : selector.compile = .ok matcher) :
    matcher.scalarsAgree resource = true ↔
      ∀ field : Field, field.IsScalar → field.Holds (selector.written field) resource := by
  obtain ⟨-, -, same⟩ := compile_eq_ok_iff.mp compiled
  rw [same]
  simp only [Matcher.scalarsAgree, Bool.and_eq_true]
  constructor
  · rintro ⟨⟨⟨⟨⟨apiVersion, group⟩, version⟩, kind⟩, name⟩, space⟩ field scalar
    cases field with
    | apiVersion => exact apiVersion
    | group => exact group
    | version => exact version
    | kind => exact kind
    | name => exact name
    | namespaceName => exact space
    | annotations => exact absurd rfl scalar.1
    | labels => exact absurd rfl scalar.2
  · intro each
    exact ⟨⟨⟨⟨⟨each .apiVersion (by decide), each .group (by decide)⟩,
      each .version (by decide)⟩, each .kind (by decide)⟩, each .name (by decide)⟩,
      each .namespaceName (by decide)⟩

/-- A selector accepts a resource when each of its fields holds. -/
theorem answers_true_iff :
    selector.Answers resource (.ok true) ↔
      ∀ field : Field, field.Holds (selector.written field) resource := by
  rw [Field.forall_iff]
  constructor
  · rintro ⟨matcher, compiled, accepted⟩
    obtain ⟨annotationsRead, labelsRead, -⟩ := compile_eq_ok_iff.mp compiled
    obtain ⟨agrees, labels, annotations⟩ := Matcher.accepts_eq_true_iff.mp accepted
    exact ⟨(scalarsAgree_iff compiled).mp agrees, ⟨_, labelsRead, labels⟩,
      ⟨_, annotationsRead, annotations⟩⟩
  · rintro ⟨scalars, ⟨labels, labelsRead, labelsHold⟩, ⟨annotations, annotationsRead,
      annotationsHold⟩⟩
    let matcher : Matcher := {
      apiVersion := wanted? selector.apiVersion
      group := wanted? selector.group
      version := wanted? selector.version
      kind := wanted? selector.kind
      name := wanted? selector.name
      namespaceName := wanted? selector.namespaceName
      annotations
      labels
      description := selector.text }
    have compiled : selector.compile = .ok matcher :=
      compile_eq_ok_iff.mpr ⟨annotationsRead, labelsRead, rfl⟩
    exact ⟨matcher, compiled, Matcher.accepts_eq_true_iff.mpr
      ⟨(scalarsAgree_iff compiled).mpr scalars, labelsHold, annotationsHold⟩⟩

/-- A blank text is no condition. -/
theorem condition?_blank {text : String} (blank : Text.trimmed text = "") :
    condition? text = .ok none := by
  have characters : Text.trim text.toList = [] := String.ofList_eq_empty_iff.mp blank
  simp only [condition?, Label.parseCondition_blank characters]
  rfl

/-- Each resource satisfies a blank text. -/
theorem Field.holds_blank {text : String} (blank : Text.trimmed text = "") (resource : Resource)
    (field : Field) : field.Holds text resource := by
  have unwanted : wanted? text = none := by
    simp [wanted?, blank]
  have conditionless := condition?_blank blank
  cases field with
  | annotations | labels => exact ⟨none, conditionless, rfl⟩
  | _ => simp only [Field.Holds, unwanted, Matcher.agrees, Option.all_none]

/-- A selector that is made of one field accepts a resource when that field holds. -/
theorem answers_only_iff {field : Field} :
    (selector.only field).Answers resource (.ok true) ↔
      field.Holds (selector.written field) resource := by
  rw [answers_true_iff]
  simp only [only, written_ofFields]
  constructor
  · intro each
    have here := each field
    rwa [if_pos rfl] at here
  · intro holds other
    by_cases same : other = field
    · subst same
      rwa [if_pos rfl]
    · rw [if_neg same]
      exact Field.holds_blank (by decide +kernel) resource other

/-- A field holds when it is blank or the selector that is made of it accepts the resource. -/
theorem holds_iff_given {field : Field} :
    field.Holds (selector.written field) resource ↔
      (selector.Given field → (selector.only field).Answers resource (.ok true)) := by
  rw [answers_only_iff]
  constructor
  · intro holds _
    exact holds
  · intro holds
    by_cases blank : Text.trimmed (selector.written field) = ""
    · exact Field.holds_blank blank resource field
    · exact holds blank

/-- A compiled selector accepts a resource exactly when each given field alone accepts it, so a
selector without some of the fields accepts it as well. It fails only where all scalar fields
accept the resource and the labels that it asks for are malformed or, where the labels satisfy it,
the annotations are. A resource that a scalar field does not accept is refused. -/
theorem accepts_conjunction (compiled : selector.compile = .ok matcher) (resource : Resource) :
    (matcher.accepts resource = .ok true ↔
      ∀ field, selector.Given field → (selector.only field).Answers resource (.ok true)) ∧
    (∀ wider : Selector,
      (∀ field, wider.Given field → wider.written field = selector.written field) →
        matcher.accepts resource = .ok true → wider.Answers resource (.ok true)) ∧
    (∀ failure, matcher.accepts resource = .error failure ↔
      (∀ field : Field, field.IsScalar → selector.Given field →
        (selector.only field).Answers resource (.ok true)) ∧
      (matcher.labels ≠ none ∧ Matcher.Malformed resource.labels? failure ∨
        (selector.only .labels).Answers resource (.ok true) ∧
          matcher.annotations ≠ none ∧ Matcher.Malformed resource.annotations? failure)) ∧
    ((∃ field : Field, field.IsScalar ∧ selector.Given field ∧
      ¬ (selector.only field).Answers resource (.ok true)) →
        matcher.accepts resource = .ok false) := by
  obtain ⟨annotationsRead, labelsRead, -⟩ := compile_eq_ok_iff.mp compiled
  have accepted : matcher.accepts resource = .ok true ↔ selector.Answers resource (.ok true) := by
    constructor
    · intro accepts
      exact ⟨matcher, compiled, accepts⟩
    · rintro ⟨other, otherCompiled, accepts⟩
      cases compiled.symm.trans otherCompiled
      exact accepts
  have agrees : matcher.scalarsAgree resource = true ↔
      ∀ field : Field, field.IsScalar → selector.Given field →
        (selector.only field).Answers resource (.ok true) := by
    rw [scalarsAgree_iff compiled]
    exact forall₂_congr fun field _ => holds_iff_given
  refine ⟨?_, ?_, ?_, ?_⟩
  · rw [accepted, answers_true_iff]
    exact forall_congr' fun field => holds_iff_given
  · intro wider fewer accepts
    have holds := answers_true_iff.mp (accepted.mp accepts)
    apply answers_true_iff.mpr
    intro field
    by_cases blank : Text.trimmed (wider.written field) = ""
    · exact Field.holds_blank blank resource field
    · rw [fewer field blank]
      exact holds field
  · intro failure
    have labelsHold : (selector.only .labels).Answers resource (.ok true) ↔
        Matcher.conditionHolds matcher.labels resource.labels? = .ok true := by
      rw [answers_only_iff]
      constructor
      · rintro ⟨condition, read, holds⟩
        cases labelsRead.symm.trans read
        exact holds
      · intro holds
        exact ⟨matcher.labels, labelsRead, holds⟩
    rw [Matcher.accepts_eq_error_iff, agrees, labelsHold, Matcher.conditionHolds_eq_error_iff,
      Matcher.conditionHolds_eq_error_iff]
  · rintro ⟨field, scalar, given, refused⟩
    apply Matcher.accepts_of_differs
    apply Bool.eq_false_iff.mpr
    intro agree
    exact refused (agrees.mp agree field scalar given)

/-- Malformed labels make a selector fail on a resource of its kind, and on no other resource. -/
theorem accepts_conjunction_malformed :
    let selector : Selector :=
      { kind := " Pod ", annotationSelector := " , ", labelSelector := "app" }
    let resource (kind : String) : Resource := ⟨.mapping [("kind", .text kind),
      ("metadata", .mapping [("labels", .text "app=web,db")])]⟩
    ∃ matcher, selector.compile = .ok matcher ∧
      matcher.accepts (resource "Pod") =
        .error (.invalidLabelSet "app=web,db" (.noPair "db")) ∧
      matcher.accepts (resource "Service") = .ok false := by
  intro selector resource
  let matcher : Matcher := ⟨none, none, none, some "Pod", none, none, none,
    some ⟨[.present "app"]⟩, selector.text⟩
  have compiled : selector.compile = .ok matcher := by decide +kernel
  have kindGiven : selector.Given .kind := by
    show Text.trimmed " Pod " ≠ ""
    decide +kernel
  have pod : (selector.only .kind).Answers (resource "Pod") (.ok true) := by
    rw [answers_only_iff]
    show Matcher.agrees (wanted? " Pod ") (resource "Pod").kind? = true
    decide +kernel
  have service : ¬ (selector.only .kind).Answers (resource "Service") (.ok true) := by
    rw [answers_only_iff]
    show ¬ Matcher.agrees (wanted? " Pod ") (resource "Service").kind? = true
    decide +kernel
  have malformed : Matcher.Malformed (resource "Pod").labels?
      (.invalidLabelSet "app=web,db" (.noPair "db")) :=
    Matcher.labelSet_eq_error_iff.mp (by decide +kernel)
  have blank : Text.trimmed "" = "" := by decide +kernel
  have scalars (field : Field) (scalar : field.IsScalar) (given : selector.Given field) :
      (selector.only field).Answers (resource "Pod") (.ok true) := by
    cases field with
    | kind => exact pod
    | annotations => exact absurd rfl scalar.1
    | labels => exact absurd rfl scalar.2
    | _ => exact absurd blank given
  obtain ⟨-, -, fails, -⟩ := accepts_conjunction compiled (resource "Pod")
  obtain ⟨-, -, -, refuses⟩ := accepts_conjunction compiled (resource "Service")
  exact ⟨matcher, compiled, (fails _).mpr ⟨scalars, .inl ⟨nofun, malformed⟩⟩,
    refuses ⟨.kind, by decide, kindGiven, service⟩⟩

end Selector

end Graft
