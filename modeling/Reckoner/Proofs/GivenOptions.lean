import Reckoner.CommandLine.Options

namespace Reckoner.CommandLine

/-- The texts given for an option, in order. -/
def textsFor (flag : Flag) : List Argument → List Text
  | .flag other (some text) :: rest =>
    if other = flag then text :: textsFor flag rest else textsFor flag rest
  | .flag other none :: .value text :: rest =>
    if other = flag then text :: textsFor flag rest else textsFor flag rest
  | _ :: rest => textsFor flag rest
  | [] => []

/-- The text that counts for an option, if there is one. -/
def given (arguments : List Text) (flag : Flag) : Option Text :=
  (textsFor flag ((classifyAll? arguments).getD [])).getLast?

/-- What the text that counts says about an option. -/
inductive Tells {α : Type} (read : Text → Option α) : Option Text → Mention α → Prop
  | nothing : Tells read none .absent
  | dashes : Tells read (some ['-', '-']) .hollow
  | value {text : Text} {a : α} : text ≠ ['-', '-'] → read text = some a →
      Tells read (some text) (.value a)

theorem tells_of_ofText? {α : Type} {read : Text → Option α} {text : Text} {mention : Mention α}
    (said : Mention.ofText? read text = some mention) : Tells read (some text) mention := by
  unfold Mention.ofText? at said
  split at said
  · next dashes =>
    cases said
    rw [dashes]
    exact .dashes
  · next other =>
    obtain ⟨a, found, made⟩ := Option.map_eq_some_iff.mp said
    cases made
    exact .value other found

namespace Tells

variable {α : Type} {read : Text → Option α} {found : Option Text} {mention : Mention α}

theorem eq_absent_iff (tells : Tells read found mention) : mention = .absent ↔ found = none := by
  cases tells <;> simp

theorem eq_hollow_iff (tells : Tells read found mention) :
    mention = .hollow ↔ found = some ['-', '-'] := by
  cases tells with
  | nothing | dashes => simp
  | value other => simp [other]

theorem exists_value {text : Text} (tells : Tells read (some text) mention)
    (other : text ≠ ['-', '-']) : ∃ a, read text = some a ∧ mention = .value a := by
  cases tells with
  | dashes => contradiction
  | value _ found => exact ⟨_, found, rfl⟩

end Tells

/-- Where what is said about an option is kept, and how its texts are read. -/
structure Slot (flag : Flag) (α : Type) where
  mention : Options → Mention α
  read : Text → Option α
  untouched : mention {} = .absent
  sets : ∀ {options next : Options} {text : Text}, options.set? flag text = some next →
    Mention.ofText? read text = some (mention next)
  keeps : ∀ {options next : Options} {other : Flag} {text : Text}, other ≠ flag →
    options.set? other text = some next → mention next = mention options

namespace Slot

variable {flag : Flag} {α : Type} {options next final : Options}

/-- What is said in the end comes from the text that counts, or else from before. -/
def Settles (slot : Slot flag α) (options final : Options) : Option Text → Prop
  | some text => Mention.ofText? slot.read text = some (slot.mention final)
  | none => slot.mention final = slot.mention options

theorem settles_cons (slot : Slot flag α) {other : Flag} {text : Text} {later : List Text}
    (set : options.set? other text = some next) (settles : slot.Settles next final later.getLast?) :
    slot.Settles options final (if other = flag then text :: later else later).getLast? := by
  split
  · next same =>
    subst same
    rw [List.getLast?_cons]
    generalize later.getLast? = last at settles ⊢
    cases last with
    | none => exact (slot.sets set).trans (congrArg some settles.symm)
    | some _ => exact settles
  · next different =>
    generalize later.getLast? = last at settles ⊢
    cases last with
    | none => exact settles.trans (slot.keeps different set)
    | some _ => exact settles

theorem settles_of_readArguments (slot : Slot flag α) {extra : Bool} {items : List Argument}
    (read : readArguments options extra items = .options final) :
    slot.Settles options final (textsFor flag items).getLast? := by
  fun_induction readArguments options extra items with
  | case2 =>
    cases read
    rfl
  | case4 _ _ _ _ _ _ set ih => exact slot.settles_cons set (ih read)
  | case6 _ _ _ _ _ _ _ set ih => exact slot.settles_cons set (ih read)
  | case9 _ _ _ _ ih => exact ih read
  | case10 _ _ _ ih => exact ih read
  | case1 | case3 | case5 | case7 | case8 | case11 => cases read

theorem tells_of_request (slot : Slot flag α) {arguments : List Text}
    (accepted : request arguments = .options options) :
    Tells slot.read (given arguments flag) (slot.mention options) := by
  unfold request at accepted
  unfold given
  cases classified : classifyAll? arguments with
  | none =>
    rw [classified] at accepted
    cases accepted
  | some items =>
    rw [classified] at accepted
    have settles := slot.settles_of_readArguments accepted
    rw [Option.getD_some]
    generalize (textsFor flag items).getLast? = last at settles ⊢
    cases last with
    | some text => exact tells_of_ofText? settles
    | none =>
      have absent : slot.mention options = .absent := settles.trans slot.untouched
      rw [absent]
      exact .nothing

end Slot

/-- The option that gives a setting its value. -/
def flagOf : Setting → Flag
  | .maxDigits => .maxDigits
  | .historyCount => .historyCount

/-- What is said about a setting. -/
def Options.limit (options : Options) : Setting → Mention Int
  | .maxDigits => options.maxDigits
  | .historyCount => options.historyCount

/-- The ways in which a text can be taken for an option. -/
inductive Options.Takes (options : Options) (text : Text) : Flag → Options → Prop
  | expr {mention : Mention Text} : Mention.ofText? some text = some mention →
      Takes options text .expr { options with expression := mention }
  | maxDigits {mention : Mention Int} : Mention.ofText? Numeral.signed? text = some mention →
      Takes options text .maxDigits { options with maxDigits := mention }
  | historyCount {mention : Mention Int} : Mention.ofText? Numeral.signed? text = some mention →
      Takes options text .historyCount { options with historyCount := mention }
  | logLevel {mention : Mention Severity} :
      Mention.ofText? (fun name => Severity.ofName? (String.ofList name)) text = some mention →
      Takes options text .logLevel { options with severity := mention }

theorem Options.takes_of_set? {options next : Options} {flag : Flag} {text : Text}
    (set : options.set? flag text = some next) : options.Takes text flag next := by
  cases flag with
  | help => cases set
  | expr =>
    obtain ⟨mention, said, made⟩ := Option.bind_eq_some_iff.mp set
    cases made
    exact .expr said
  | maxDigits =>
    obtain ⟨mention, said, made⟩ := Option.bind_eq_some_iff.mp set
    cases made
    exact .maxDigits said
  | historyCount =>
    obtain ⟨mention, said, made⟩ := Option.bind_eq_some_iff.mp set
    cases made
    exact .historyCount said
  | logLevel =>
    obtain ⟨mention, said, made⟩ := Option.bind_eq_some_iff.mp set
    cases made
    exact .logLevel said

namespace Slot

def expr : Slot .expr Text where
  mention := Options.expression
  read := some
  untouched := rfl
  sets set := by
    cases Options.takes_of_set? set with
    | expr said => exact said
  keeps different set := by
    cases Options.takes_of_set? set with
    | expr => contradiction
    | maxDigits | historyCount | logLevel => rfl

def limit (setting : Setting) : Slot (flagOf setting) Int where
  mention options := options.limit setting
  read := Numeral.signed?
  untouched := by cases setting <;> rfl
  sets set := by
    cases setting with
    | maxDigits =>
      cases Options.takes_of_set? set with
      | maxDigits said => exact said
    | historyCount =>
      cases Options.takes_of_set? set with
      | historyCount said => exact said
  keeps different set := by
    cases setting <;> cases Options.takes_of_set? set <;> first | contradiction | rfl

def logLevel : Slot .logLevel Severity where
  mention := Options.severity
  read name := Severity.ofName? (String.ofList name)
  untouched := rfl
  sets set := by
    cases Options.takes_of_set? set with
    | logLevel said => exact said
  keeps different set := by
    cases Options.takes_of_set? set with
    | logLevel => contradiction
    | expr | maxDigits | historyCount => rfl

end Slot

end Reckoner.CommandLine
