import KeyPlan.Proofs.ReadActions
import KeyPlan.Proofs.SettingsText

/-!
# Settings that the environment overrides

Each pause has up to three sources: a variable of its own, the preset that another variable names,
and the settings in force before, which come from a file or are the normal ones. The first source
that is there counts, and the first variable that makes no sense is reported. A file that is there
but cannot be taken is reported before any variable is looked at.

## Main definitions

* `Speed.NamedBy`: the words for a preset, in any letter case and with blanks around them
* `Settings.Variable`: the variables, in the order in which they are looked at
* `Settings.Variable.Takes`, `Settings.Variable.Sound`: the values of a variable that make sense
* `Settings.Sourced`: where the value of a field comes from
* `Settings.FirstRefused`: the fault of the first variable that makes no sense
* `Settings.Base`, `Settings.AtStart`: what the overrides are laid over, and the settings to start
  with

## Main results

* `Speed.parse_eq_ok_iff`: a preset is found by its words, and by nothing else
* `Settings.withEnvironment_cases`: the pauses after the environment's overrides, or the fault
* `Settings.atStart_iff`: the settings to start with are those of file and environment
* `Settings.resolve_precedence`: the settings of file and environment
-/

namespace KeyPlan

/-! ## Words for presets -/

/-- The letters of the words for presets. -/
def Speed.letters : List Char := all.flatMap fun p => p.words.flatMap String.toList

namespace Text

/-- Beyond ASCII no character has such a letter as its lower case. -/
theorem lowerRuns_not_letter : ∀ r ∈ lowerRuns, ∀ d ∈ Speed.letters,
    d.toNat < r.image ∨ r.image + (r.last - r.first) < d.toNat := by
  decide +kernel

theorem letters_ascii : ∀ d ∈ Speed.letters, d.toNat ≠ 0 ∧ d.toNat < 128 := by
  decide +kernel

/-- Only in ASCII a character has such letters as its lower case. -/
theorem toNat_lt_of_lowerChar {c : Char} (h : ∀ d ∈ lowerChar c, d ∈ Speed.letters) :
    c.toNat < 128 := by
  unfold lowerChar at h
  split_ifs at h with hascii hdot
  · exact hascii
  · -- the capital with a dot has an i in lower case
    exact absurd (h 'i' (by decide)) (by decide)
  · have hletter := List.forall_mem_singleton.mp h
    obtain ⟨hzero, hlow⟩ := letters_ascii _ hletter
    cases hrun : mapRuns? lowerRuns c.toNat with
    | none =>
      rw [hrun, Option.getD_none, Char.ofNat_toNat] at hlow
      exact hlow
    | some n =>
      rw [hrun, Option.getD_some] at hletter hzero
      -- no run of capitals leads to such a letter
      obtain ⟨r, hr, hfirst, hlast⟩ := exists_of_mapRuns? hrun
      have hn := toNat_ofNat_of_ne_zero hzero
      have hrange := lowerRuns_not_letter r hr _ hletter
      omega

/-- The lower case of a text in ASCII, wherever it stands. -/
theorem lowerAfter_ascii {s : List Char} :
    ∀ {before : List Char}, (∀ c ∈ s, c.toNat < 128) → lowerAfter before s = foldAscii s := by
  induction s with
  | nil => exact fun _ => rfl
  | cons c s ih =>
    intro before h
    obtain ⟨hc, hs⟩ := List.forall_mem_cons.mp h
    have hsigma : c ≠ 'Σ' := by
      rintro rfl
      exact absurd hc (by decide)
    rw [lowerAfter, if_neg hsigma, lowerChar_ascii hc, ih hs]
    rfl

/-- A text with such letters as its lower case is in ASCII. -/
theorem toNat_lt_of_lowerAfter {s : List Char} :
    ∀ {before : List Char}, (∀ d ∈ lowerAfter before s, d ∈ Speed.letters) →
      ∀ c ∈ s, c.toNat < 128 := by
  induction s with
  | nil => exact fun _ => List.forall_mem_nil _
  | cons c s ih =>
    intro before h
    rw [lowerAfter] at h
    obtain ⟨hc, hs⟩ := List.forall_mem_append.mp h
    refine List.forall_mem_cons.mpr ⟨?_, ih hs⟩
    split at hc
    · -- a sigma stays Greek, whichever form it has
      refine absurd (List.forall_mem_singleton.mp hc) ?_
      split <;> decide
    · exact toNat_lt_of_lowerChar hc

/-- A word for a preset is the lower case of its spellings in ASCII, and of no other text. -/
theorem lower_eq_iff {s word : List Char} (hword : ∀ d ∈ word, d ∈ Speed.letters) :
    lower s = word ↔ foldAscii s = word := by
  constructor
  · rintro rfl
    exact (lowerAfter_ascii (toNat_lt_of_lowerAfter hword)).symm
  · rintro rfl
    refine lowerAfter_ascii fun c hc => ?_
    have hlow := (letters_ascii _ (hword _ (List.mem_map_of_mem hc))).2
    rcases toLower_cases c with ⟨-, hhigh, -⟩ | ⟨-, hsame⟩
    · omega
    · rwa [hsame] at hlow

end Text

namespace Speed

/-- **The text names the preset**: it is one of its words, in any letter case and with blanks around
it. -/
def NamedBy (speed : Speed) (text : String) : Prop :=
  ∃ word ∈ speed.words, Text.foldAscii (Text.trim text.toList) = word.toList

theorem mem_letters {speed : Speed} {word : String} (h : word ∈ speed.words) :
    ∀ d ∈ word.toList, d ∈ letters := fun d hd =>
  List.mem_flatMap.mpr ⟨speed, by cases speed <;> decide, List.mem_flatMap.mpr ⟨word, h, hd⟩⟩

theorem namedBy_iff {speed : Speed} {text : String} :
    speed.NamedBy text ↔ String.ofList (Text.lower (Text.trim text.toList)) ∈ speed.words := by
  constructor
  · rintro ⟨word, hword, h⟩
    rw [(Text.lower_eq_iff (mem_letters hword)).mpr h, String.ofList_toList]
    exact hword
  · intro h
    refine ⟨_, h, ?_⟩
    rw [← Text.lower_eq_iff (mem_letters h), String.toList_ofList]

/-- No word stands for two presets. -/
theorem find?_words : ∀ p ∈ all, ∀ word ∈ p.words,
    all.find? (fun q => q.words.contains word) = some p := by
  decide

/-- **A preset is found by its words**, and by nothing else. -/
theorem parse_eq_ok_iff {text : String} {speed : Speed} :
    parse text = .ok speed ↔ speed.NamedBy text := by
  rw [namedBy_iff, parse]
  constructor
  · intro h
    split at h
    · next p hp =>
      obtain rfl := Except.ok.inj h
      simpa using List.find?_some hp
    · exact nomatch h
  · intro h
    have hmem : speed ∈ all := by cases speed <;> decide
    simp only [find?_words speed hmem _ h]

/-- A text names at most one preset. -/
theorem NamedBy.unique {text : String} {speed speed' : Speed} (h : speed.NamedBy text)
    (h' : speed'.NamedBy text) : speed = speed' :=
  Except.ok.inj ((parse_eq_ok_iff.mpr h).symm.trans (parse_eq_ok_iff.mpr h'))

theorem parse_eq_error {text : String} (h : ∀ speed : Speed, ¬ speed.NamedBy text) :
    parse text = .error (.config ("unknown speed preset '" ++
      String.ofList (Text.lower (Text.trim text.toList)) ++ "'")) := by
  rw [parse]
  split
  · next p hp =>
    refine absurd (namedBy_iff.mpr ?_) (h p)
    simpa using List.find?_some hp
  · rfl

end Speed

namespace Settings

open Json (ok_bind)

/-! ## Variables -/

/-- **The variables that settings depend on.** -/
inductive Variable where
  | speed
  | pause (field : Field)
  deriving DecidableEq, Repr

namespace Variable

/-- **The variables in the order in which they are looked at.** -/
def all : List Variable :=
  [speed, pause .actionDelay, pause .appSwitchDelay, pause .keyEventDelay, pause .characterDelay]

/-- The name of the variable. -/
def name : Variable → String
  | speed => "SHORTCUT_SPEED"
  | pause .actionDelay => "SHORTCUT_ACTION_DELAY_MS"
  | pause .appSwitchDelay => "SHORTCUT_APP_SWITCH_DELAY_MS"
  | pause .keyEventDelay => "SHORTCUT_KEY_EVENT_DELAY_US"
  | pause .characterDelay => "SHORTCUT_CHARACTER_DELAY_US"

/-- **The value makes sense**: it names a preset, or it is a 64-bit natural number with blanks around
it. -/
def Takes : Variable → String → Prop
  | speed, value => ∃ speed : Speed, speed.NamedBy value
  | pause _, value => ∃ n : UInt64, Text.Numeral (Text.trim value.toList) n.toNat

/-- The fault of a value that makes no sense. -/
def fault : Variable → String → Fault
  | speed, value =>
    .config ("unknown speed preset '" ++
      String.ofList (Text.lower (Text.trim value.toList)) ++ "'")
  | pause field, value =>
    .config ((pause field).name ++ " must be a non-negative integer, got '" ++ value ++ "'")

/-- The variable is not set, or its value makes sense. -/
def Sound (env : String → Option String) (v : Variable) : Prop :=
  ∀ value, env v.name = some value → v.Takes value

/-- The variable has a value that makes no sense, and this is its fault. -/
def Refused (env : String → Option String) (v : Variable) (e : Fault) : Prop :=
  ∃ value, env v.name = some value ∧ ¬ v.Takes value ∧ e = v.fault value

end Variable

/-- **Where the value of a field comes from**: its own variable if that is set, otherwise the preset
that is named, otherwise the base. -/
inductive Sourced (env : String → Option String) (base : Settings) (field : Field) :
    UInt64 → Prop
  | own {value : String} {n : UInt64} : env (Variable.pause field).name = some value →
      Text.Numeral (Text.trim value.toList) n.toNat → Sourced env base field n
  | preset {value : String} {speed : Speed} : env (Variable.pause field).name = none →
      env Variable.speed.name = some value → speed.NamedBy value →
      Sourced env base field ((preset speed).get field)
  | base : env (Variable.pause field).name = none → env Variable.speed.name = none →
      Sourced env base field (base.get field)

/-- **The fault of the first variable that makes no sense.** -/
def FirstRefused (env : String → Option String) (e : Fault) : Prop :=
  ∃ past v rest, Variable.all = past ++ v :: rest ∧ (∀ u ∈ past, u.Sound env) ∧ v.Refused env e

/-! ## One variable -/

variable {env : String → Option String}

/-- The settings that a preset may have taken the place of. -/
def chosen (env : String → Option String) (base : Settings) : Except Fault Settings :=
  match env speedVariable with
  | some word => (Speed.parse word).map preset
  | none => .ok base

/-- A preset is chosen, or the base stays, or the choice makes no sense. -/
theorem chosen_cases (env : String → Option String) (base : Settings) :
    (∃ s, chosen env base = .ok s ∧ Variable.speed.Sound env ∧
      ∀ field, env (Variable.pause field).name = none → Sourced env base field (s.get field)) ∨
      ∃ e, chosen env base = .error e ∧ Variable.speed.Refused env e := by
  unfold chosen
  cases hvalue : env speedVariable with
  | none =>
    have hsound : Variable.speed.Sound env := fun value h => by
      rw [show env Variable.speed.name = none from hvalue] at h
      exact nomatch h
    exact .inl ⟨base, rfl, hsound, fun field hown => .base hown hvalue⟩
  | some value =>
    by_cases hnamed : ∃ speed : Speed, speed.NamedBy value
    · obtain ⟨speed, hspeed⟩ := hnamed
      have hsound : Variable.speed.Sound env := fun other h => by
        obtain rfl := Option.some.inj (hvalue.symm.trans h)
        exact ⟨speed, hspeed⟩
      refine .inl ⟨preset speed, ?_, hsound, fun field hown => .preset hown hvalue hspeed⟩
      simp only [Speed.parse_eq_ok_iff.mpr hspeed]
      rfl
    · refine .inr ⟨Variable.speed.fault value, ?_, value, hvalue, hnamed, rfl⟩
      simp only [Speed.parse_eq_error (not_exists.mp hnamed)]
      rfl

/-- A field is given by its variable, or the variable is not set, or its value makes no sense. -/
theorem override_cases (env : String → Option String) (base s : Settings) (field : Field)
    (hs : env (Variable.pause field).name = none → Sourced env base field (s.get field)) :
    (∃ n, override env (Variable.pause field).name (s.get field) = .ok n ∧
      (Variable.pause field).Sound env ∧ Sourced env base field n) ∨
      ∃ e, override env (Variable.pause field).name (s.get field) = .error e ∧
        (Variable.pause field).Refused env e := by
  unfold override
  cases hvalue : env (Variable.pause field).name with
  | none =>
    have hsound : (Variable.pause field).Sound env := fun value h => by
      rw [hvalue] at h
      exact nomatch h
    exact .inl ⟨_, rfl, hsound, hs hvalue⟩
  | some value =>
    cases hread : Text.readWord? (Text.trim value.toList) with
    | some n =>
      have hnumeral := Text.readWord?_eq_some_iff.mp hread
      have hsound : (Variable.pause field).Sound env := fun other h => by
        obtain rfl := Option.some.inj (hvalue.symm.trans h)
        exact ⟨n, hnumeral⟩
      exact .inl ⟨n, by simp only [hread], hsound, .own hvalue hnumeral⟩
    | none =>
      have hbad : ¬ (Variable.pause field).Takes value := by
        rintro ⟨n, hn⟩
        rw [Text.readWord?_eq_some_iff.mpr hn] at hread
        exact nomatch hread
      exact .inr ⟨(Variable.pause field).fault value, by simp only [hread]; rfl,
        value, hvalue, hbad, rfl⟩

/-! ## All variables -/

/-- **The variables are looked at one after another**: the preset, and then each field. -/
theorem withEnvironment_eq (env : String → Option String) (base : Settings) :
    base.withEnvironment env = do
      let s ← chosen env base
      let a ← override env (Variable.pause .actionDelay).name (s.get .actionDelay)
      let b ← override env (Variable.pause .appSwitchDelay).name (s.get .appSwitchDelay)
      let c ← override env (Variable.pause .keyEventDelay).name (s.get .keyEventDelay)
      let d ← override env (Variable.pause .characterDelay).name (s.get .characterDelay)
      return ⟨a, b, c, d⟩ := by
  unfold withEnvironment chosen
  cases env speedVariable with
  | none => rfl
  | some word => rfl

/-- **The pauses after the environment's overrides, or the fault.** All variables make sense, and
each field comes from its first source, or the first variable that makes no sense is reported. -/
theorem withEnvironment_cases (env : String → Option String) (base : Settings) :
    (∃ s, base.withEnvironment env = .ok s ∧ (∀ v, Variable.Sound env v) ∧
      ∀ field, Sourced env base field (s.get field)) ∨
      ∃ e, base.withEnvironment env = .error e ∧ FirstRefused env e := by
  rw [withEnvironment_eq]
  -- a variable is looked at if the ones before it make sense, so the first bad one ends the search
  rcases chosen_cases env base with ⟨s, hs, hspeed, hsource⟩ | ⟨e, he, hrefused⟩
  case inr =>
    rw [he]
    exact .inr ⟨e, rfl, [], .speed, _, rfl, List.forall_mem_nil _, hrefused⟩
  rw [hs, ok_bind]
  rcases override_cases env base s .actionDelay (hsource _) with
    ⟨a, ha, haction, hasource⟩ | ⟨e, he, hrefused⟩
  case inr =>
    rw [he]
    exact .inr ⟨e, rfl, [.speed], _, _, rfl, by simp [hspeed], hrefused⟩
  rw [ha, ok_bind]
  rcases override_cases env base s .appSwitchDelay (hsource _) with
    ⟨b, hb, hswitch, hbsource⟩ | ⟨e, he, hrefused⟩
  case inr =>
    rw [he]
    exact .inr ⟨e, rfl, [.speed, .pause .actionDelay], _, _, rfl, by simp [hspeed, haction],
      hrefused⟩
  rw [hb, ok_bind]
  rcases override_cases env base s .keyEventDelay (hsource _) with
    ⟨c, hc, hkey, hcsource⟩ | ⟨e, he, hrefused⟩
  case inr =>
    rw [he]
    exact .inr ⟨e, rfl, [.speed, .pause .actionDelay, .pause .appSwitchDelay], _, _, rfl,
      by simp [hspeed, haction, hswitch], hrefused⟩
  rw [hc, ok_bind]
  rcases override_cases env base s .characterDelay (hsource _) with
    ⟨d, hd, hcharacter, hdsource⟩ | ⟨e, he, hrefused⟩
  case inr =>
    rw [he]
    exact .inr ⟨e, rfl, [.speed, .pause .actionDelay, .pause .appSwitchDelay, .pause .keyEventDelay],
      _, _, rfl, by simp [hspeed, haction, hswitch, hkey], hrefused⟩
  rw [hd, ok_bind]
  refine .inl ⟨_, rfl, ?_, ?_⟩
  · rintro (_ | _ | _ | _ | _)
    exacts [hspeed, haction, hswitch, hkey, hcharacter]
  · rintro (_ | _ | _ | _)
    exacts [hasource, hbsource, hcsource, hdsource]

/-- A variable that makes no sense does not make sense. -/
theorem FirstRefused.not_sound {e : Fault} (h : FirstRefused env e) :
    ¬ ∀ v, Variable.Sound env v := by
  obtain ⟨-, v, -, -, -, value, hvalue, hbad, -⟩ := h
  exact fun hsound => hbad (hsound v value hvalue)

/-- Settings are their fields. -/
theorem eq_of_get {s t : Settings} (h : ∀ field, s.get field = t.get field) : s = t := by
  obtain ⟨a, b, c, d⟩ := s
  obtain ⟨a', b', c', d'⟩ := t
  obtain rfl : a = a' := h .actionDelay
  obtain rfl : b = b' := h .appSwitchDelay
  obtain rfl : c = c' := h .keyEventDelay
  obtain rfl : d = d' := h .characterDelay
  rfl

/-- **A field has only one source.** -/
theorem Sourced.unique {base : Settings} {field : Field} {n n' : UInt64}
    (h : Sourced env base field n) (h' : Sourced env base field n') : n = n' := by
  cases h with
  | own hvalue hnumeral =>
    cases h' with
    | own hvalue' hnumeral' =>
      obtain rfl := Option.some.inj (hvalue.symm.trans hvalue')
      exact UInt64.toNat_inj.mp (hnumeral.unique hnumeral')
    | preset hnone => exact nomatch hvalue.symm.trans hnone
    | base hnone => exact nomatch hvalue.symm.trans hnone
  | preset hown hvalue hspeed =>
    cases h' with
    | own hvalue' => exact nomatch hown.symm.trans hvalue'
    | preset _ hvalue' hspeed' =>
      obtain rfl := Option.some.inj (hvalue.symm.trans hvalue')
      rw [hspeed.unique hspeed']
    | base _ hnone => exact nomatch hvalue.symm.trans hnone
  | base hown hspeed =>
    cases h' with
    | own hvalue' => exact nomatch hown.symm.trans hvalue'
    | preset _ hvalue' => exact nomatch hspeed.symm.trans hvalue'
    | base => rfl

/-! ## File and environment -/

/-- **The base of the overrides**: what the file holds, or the normal preset if nothing is there. -/
inductive Base : FileState → Settings → Prop where
  | file {file : FileState} {s : Settings} (h : load file = .ok s) : Base file s
  | nothing {fault : FileFault} (h : fault ∉ [.isDirectory, .denied, .notText]) :
      Base (.absent fault) normal

/-- **The settings to start with**: the overrides of the base if all of them make
sense, or the normal preset if there is no base or some variable makes no sense. -/
inductive AtStart (file : FileState) (env : String → Option String) : Settings → Prop where
  | overridden {base s : Settings} (hbase : Base file base) (hsound : ∀ v, Variable.Sound env v)
      (hsource : ∀ field, Sourced env base field (s.get field)) : AtStart file env s
  | unusable (h : (∀ base, ¬ Base file base) ∨ ¬ ∀ v, Variable.Sound env v) : AtStart file env normal

theorem resolve_of_base {file : FileState} {base : Settings} (h : Base file base) :
    resolve file env = base.withEnvironment env := by
  cases h with
  | file h =>
    have hpresent : file.isPresent = true := by
      cases file with
      | file octets => rfl
      | absent fault => exact nomatch h
    rw [resolve, if_pos hpresent, h]
    rfl
  | @nothing fault h =>
    -- every other fault says that nothing is there
    have hpresent : (FileState.absent fault).isPresent = false := by
      cases fault <;> first | rfl | exact absurd (by decide) h
    rw [resolve, hpresent]
    rfl

/-- Without a base there is something at the path that cannot be taken. -/
theorem exists_resolve_of_not_base {file : FileState} (h : ∀ base, ¬ Base file base) :
    ∃ e, resolve file env = .error e := by
  cases hload : load file with
  | ok s => exact absurd (.file hload) (h s)
  | error e =>
    have hpresent : file.isPresent = true := by
      cases file with
      | file octets => rfl
      | absent fault =>
        cases fault <;> first | rfl | exact absurd (.nothing (by decide)) (h normal)
    refine ⟨e, ?_⟩
    rw [resolve, if_pos hpresent, hload]
    rfl

/-- There is at most one base. -/
theorem Base.unique {file : FileState} {s t : Settings} (hs : Base file s) (ht : Base file t) :
    s = t := by
  cases hs with
  | file hs =>
    cases ht with
    | file ht => exact Except.ok.inj (hs.symm.trans ht)
    | nothing h => exact nomatch hs
  | nothing h =>
    cases ht with
    | file ht => exact nomatch ht
    | nothing => rfl

/-- **The settings to start with** are those that file and environment are resolved to, or the normal
preset if these make no sense. -/
theorem atStart_iff {file : FileState} {s : Settings} :
    AtStart file env s ↔ (resolve file env).toOption.getD normal = s := by
  by_cases hbase : ∃ base, Base file base
  · obtain ⟨base, hbase⟩ := hbase
    rw [resolve_of_base hbase]
    rcases withEnvironment_cases env base with ⟨t, ht, hsound, hsource⟩ | ⟨e, he, hrefused⟩
    · rw [ht]
      constructor
      · rintro (⟨hbase', -, hsource'⟩ | hnone | hbad)
        · -- base and sources are unique, so each field has the same value twice
          rw [hbase'.unique hbase] at hsource'
          exact eq_of_get fun field => (hsource field).unique (hsource' field)
        · exact absurd hbase (hnone base)
        · exact absurd hsound hbad
      · rintro rfl
        exact .overridden hbase hsound hsource
    · -- a variable makes no sense, so what the others say does not count
      rw [he]
      constructor
      · rintro (⟨-, hsound, -⟩ | -)
        · exact absurd hsound hrefused.not_sound
        · rfl
      · rintro rfl
        exact .unusable (.inr hrefused.not_sound)
  · have hnone := not_exists.mp hbase
    obtain ⟨e, he⟩ : ∃ e, resolve file env = .error e := exists_resolve_of_not_base hnone
    rw [he]
    constructor
    · rintro (⟨hbase', -, -⟩ | -)
      · exact absurd hbase' (hnone _)
      · rfl
    · rintro rfl
      exact .unusable (.inl hnone)

/-- **The settings of file and environment.** The overrides succeed exactly if each variable that is
set makes sense. Then each field has the value of its own variable, or of the preset that is named,
or of the base; otherwise the fault is that of the first variable that makes no sense. The base is
what the file holds, or the normal preset if there is no file. A file without a text and a text that
cannot be read are faults, whatever the environment is. -/
theorem resolve_precedence (env : String → Option String) :
    (∀ base : Settings,
      ((∃ s, base.withEnvironment env = .ok s) ↔ ∀ v, Variable.Sound env v) ∧
        (∀ s, base.withEnvironment env = .ok s → ∀ field, Sourced env base field (s.get field)) ∧
        ∀ e, base.withEnvironment env = .error e → FirstRefused env e) ∧
      ∀ file : FileState,
        (file.isPresent = false → resolve file env = normal.withEnvironment env) ∧
        (∀ e, file.isPresent = true → file.text = .error e → resolve file env = .error (.io e)) ∧
        ∀ text, file.text = .ok text →
          (∀ e, read text = .error e → resolve file env = .error (.json e)) ∧
          ∀ base, read text = .ok base → resolve file env = base.withEnvironment env := by
  refine ⟨fun base => ?_, fun file => ⟨fun h => ?_, fun e hpresent htext => ?_, fun text htext => ?_⟩⟩
  · rcases withEnvironment_cases env base with ⟨s, hs, hsound, hsource⟩ | ⟨e, he, hfirst⟩
    · rw [hs]
      refine ⟨⟨fun _ => hsound, fun _ => ⟨s, rfl⟩⟩, fun s' h => ?_, ?_⟩
      · obtain rfl := Except.ok.inj h
        exact hsource
      · rintro e ⟨⟩
    · rw [he]
      refine ⟨⟨?_, fun hsound => absurd hsound hfirst.not_sound⟩, ?_, fun e' h => ?_⟩
      · rintro ⟨s, ⟨⟩⟩
      · rintro s ⟨⟩
      · obtain rfl := Except.error.inj h
        exact hfirst
  · rw [resolve, if_neg (by simp [h])]
    rfl
  · rw [resolve, if_pos hpresent, load, htext]
    rfl
  · have hpresent : file.isPresent = true := by
      cases file with
      | file octets => rfl
      | absent e => cases htext
    rw [resolve, if_pos hpresent, load, htext]
    refine ⟨fun e h => ?_, fun base h => ?_⟩
    · simp only [h]
      rfl
    · simp only [h]
      rfl

/-- Two values that make no sense behind one that does, first with a preset as the base and then
with a directory in place of the file. -/
theorem resolve_precedence_two_faults :
    let env : String → Option String := fun name =>
      if name = "SHORTCUT_SPEED" then some " Default\n"
      else if name = "SHORTCUT_APP_SWITCH_DELAY_MS" then some "-1"
      else if name = "SHORTCUT_CHARACTER_DELAY_US" then some "many"
      else none
    let fault := Fault.config
      "SHORTCUT_APP_SWITCH_DELAY_MS must be a non-negative integer, got '-1'"
    normal.withEnvironment env = .error fault ∧ FirstRefused env fault ∧
      (FileState.absent .isDirectory).isPresent = true ∧
      (FileState.absent .isDirectory).text = .error .isDirectory ∧
      resolve (.absent .isDirectory) env = .error (.io .isDirectory) := by
  intro env fault
  have hfault : normal.withEnvironment env = .error fault := by decide +kernel
  obtain ⟨hoverrides, hfiles⟩ := resolve_precedence env
  exact ⟨hfault, (hoverrides normal).2.2 fault hfault, rfl, rfl,
    (hfiles (.absent .isDirectory)).2.1 .isDirectory rfl rfl⟩

end Settings

end KeyPlan
