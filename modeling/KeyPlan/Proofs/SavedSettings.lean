import Mathlib.Data.List.Induction
import KeyPlan.Proofs.Overrides
import KeyPlan.Proofs.Script

/-!
# Settings that the console saves

Only a choice of speed changes the settings in force, and only `save` touches their file. So the
file holds what was in force when it was last written: the preset of the last choice before that, or
what the console has started with.

## Main definitions

* `Console.Setup.Accepts`: every write of the settings file succeeds
* `Console.Chooses`: the commands that choose a preset
* `Console.InForce`: the settings after commands

## Main results

* `Console.inForce_concat`: the settings in force after one more command
* `Console.inForce_iff`: the settings in force after a script
* `Console.settingsFile_after`: a script without `save` keeps the file
* `Console.load_settingsFile`: what the file holds in the end
-/

namespace KeyPlan.Console

/-! ## The settings in force -/

/-- **The command chooses a preset**: it names one. -/
inductive Chooses : Command → Speed → Prop where
  | speed {word : String} {speed : Speed} (h : speed.NamedBy word) : Chooses (.speed word) speed

/-- **The settings in force after commands**: the preset that was chosen last, or the settings to
start with if none was chosen. -/
inductive InForce (settingsFile : FileState) (env : String → Option String)
    (commands : List Command) : Settings → Prop where
  | chosen {past rest : List Command} {command : Command} {speed : Speed}
      (h : commands = past ++ command :: rest) (hspeed : Chooses command speed)
      (hrest : ∀ later ∈ rest, ∀ speed, ¬ Chooses later speed) :
      InForce settingsFile env commands (Settings.preset speed)
  | started {s : Settings} (h : ∀ command ∈ commands, ∀ speed, ¬ Chooses command speed)
      (hs : Settings.AtStart settingsFile env s) : InForce settingsFile env commands s

section InForce

variable {settingsFile : FileState} {env : String → Option String} {commands : List Command}
  {command : Command} {s : Settings}

theorem inForce_nil : InForce settingsFile env [] s ↔ Settings.AtStart settingsFile env s := by
  constructor
  · rintro (⟨h, -, -⟩ | ⟨-, hs⟩)
    · exact absurd h.symm (List.append_ne_nil_of_right_ne_nil _ (List.cons_ne_nil _ _))
    · exact hs
  · exact .started (List.forall_mem_nil _)

/-- **One more command** chooses a preset, or leaves in force what was. -/
theorem inForce_concat : InForce settingsFile env (commands ++ [command]) s ↔
    (∃ speed, Chooses command speed ∧ s = Settings.preset speed) ∨
      (∀ speed, ¬ Chooses command speed) ∧ InForce settingsFile env commands s := by
  constructor
  · rintro (@⟨past, rest, choice, speed, h, hspeed, hrest⟩ | ⟨hnone, hs⟩)
    · -- the last choice is the new command, or it is one of the old ones
      rcases List.eq_nil_or_concat' rest with rfl | ⟨rest, last, rfl⟩
      · obtain ⟨-, rfl⟩ := List.append_singleton_inj.mp h
        exact .inl ⟨speed, hspeed, rfl⟩
      · rw [← List.cons_append, ← List.append_assoc] at h
        obtain ⟨rfl, rfl⟩ := List.append_singleton_inj.mp h
        obtain ⟨hrest, hlast⟩ := List.forall_mem_append.mp hrest
        exact .inr ⟨hlast command (List.mem_singleton_self command), .chosen rfl hspeed hrest⟩
    · obtain ⟨hnone, hlast⟩ := List.forall_mem_append.mp hnone
      exact .inr ⟨hlast command (List.mem_singleton_self command), .started hnone hs⟩
  · rintro (⟨speed, hspeed, rfl⟩ |
      ⟨hlast, @⟨past, rest, choice, speed, rfl, hspeed, hrest⟩ | ⟨hnone, hs⟩⟩)
    · exact .chosen rfl hspeed (List.forall_mem_nil _)
    · have hsplit : past ++ choice :: rest ++ [command] = past ++ choice :: (rest ++ [command]) := by
        simp
      refine .chosen hsplit hspeed (List.forall_mem_append.mpr ⟨hrest, ?_⟩)
      exact List.forall_mem_singleton.mpr hlast
    · refine .started (List.forall_mem_append.mpr ⟨hnone, ?_⟩) hs
      exact List.forall_mem_singleton.mpr hlast

end InForce

/-- A command chooses at most one preset. -/
theorem Chooses.unique {command : Command} {speed speed' : Speed} (h : Chooses command speed)
    (h' : Chooses command speed') : speed = speed' := by
  cases h with
  | speed h =>
    cases h' with
    | speed h' => exact h.unique h'

variable {setup : Setup}

/-! ## One command -/

/-- **A choice of speed puts its preset in force**, and changes nothing else. -/
theorem perform_of_chooses {command : Command} {speed : Speed} (h : Chooses command speed)
    (setup : Setup) (c : Console) :
    (c.perform setup command).2 = { c with settings := Settings.preset speed } := by
  cases h with
  | speed h =>
    rw [perform, setSpeed_eq, Speed.parse_eq_ok_iff.mpr h]
    rfl

/-- A word that names no preset changes nothing. -/
theorem perform_speed_of_not_namedBy {word : String} (h : ∀ speed : Speed, ¬ speed.NamedBy word)
    (setup : Setup) (c : Console) : (c.perform setup (.speed word)).2 = c := by
  rw [perform, setSpeed_eq, Speed.parse_eq_error h]
  rfl

/-- **Only a choice of speed changes the settings in force.** -/
theorem settings_perform_of_not_chooses {command : Command} (h : ∀ speed, ¬ Chooses command speed)
    (setup : Setup) (c : Console) : (c.perform setup command).2.settings = c.settings := by
  cases command with
  | load path => rw [perform, load_eq]
  | speed word => rw [perform_speed_of_not_namedBy fun speed hspeed => h speed (.speed hspeed)]
  | save =>
    obtain ⟨settingsFile, hsave⟩ := exists_save_eq setup c
    rw [perform, hsave]
  | apps =>
    obtain ⟨world, happs⟩ := exists_apps_eq setup c
    rw [perform, happs]
  | run previous =>
    obtain ⟨world, queue, hrun⟩ := exists_run_eq setup c previous
    rw [perform, hrun]
  | _ => rfl

/-- **Only `save` touches the settings file.** -/
theorem settingsFile_perform {command : Command} (h : command ≠ .save) (setup : Setup)
    (c : Console) : (c.perform setup command).2.settingsFile = c.settingsFile := by
  cases command with
  | load path => rw [perform, load_eq]
  | speed word => rw [perform, setSpeed_eq]
  | save => exact absurd rfl h
  | apps =>
    obtain ⟨world, happs⟩ := exists_apps_eq setup c
    rw [perform, happs]
  | run previous =>
    obtain ⟨world, queue, hrun⟩ := exists_run_eq setup c previous
    rw [perform, hrun]
  | _ => rfl

/-- **Every write of the settings file succeeds**, and there is a place for it. -/
structure Setup.Accepts (setup : Setup) : Prop where
  path : setup.settingsPath.isSome = true
  write : ∀ file text, setup.write file text = (.ok (), FileState.ofText text)

/-- What is saved are the settings in force. -/
theorem settingsFile_save (h : setup.Accepts) (c : Console) :
    (c.perform setup .save).2.settingsFile = FileState.ofText c.settings.write := by
  obtain ⟨path, hpath⟩ := Option.isSome_iff_exists.mp h.path
  simp only [perform, save, hpath, h.write]

/-! ## A script -/

/-- **The settings in force after a script**, by induction on its last command. -/
theorem inForce_iff (setup : Setup) {settingsFile : FileState} {env : String → Option String}
    {commands : List Command} {s : Settings} :
    InForce settingsFile env commands s ↔
      s = ((start settingsFile env).after setup commands).settings := by
  induction commands using List.reverseRecOn generalizing s with
  | nil =>
    have hstart : (start settingsFile env).settings =
        (Settings.resolve settingsFile env).toOption.getD Settings.normal := by
      rw [start]
      cases Settings.resolve settingsFile env <;> rfl
    rw [inForce_nil, Settings.atStart_iff, after_nil, hstart, eq_comm]
  | append_singleton commands command ih =>
    rw [inForce_concat, ih, after_concat]
    by_cases hchoice : ∃ speed, Chooses command speed
    · obtain ⟨speed, hspeed⟩ := hchoice
      rw [perform_of_chooses hspeed]
      constructor
      · rintro (⟨speed', hspeed', rfl⟩ | ⟨hnone, -⟩)
        · rw [hspeed'.unique hspeed]
        · exact absurd hspeed (hnone speed)
      · exact fun hs => .inl ⟨speed, hspeed, hs⟩
    · have hnone := not_exists.mp hchoice
      rw [settings_perform_of_not_chooses hnone]
      constructor
      · rintro (⟨speed, hspeed, -⟩ | ⟨-, hs⟩)
        · exact absurd hspeed (hnone speed)
        · exact hs
      · exact fun hs => .inr ⟨hnone, hs⟩

/-- **A script without `save` keeps the file.** -/
theorem settingsFile_after {commands : List Command} (h : Command.save ∉ commands) (setup : Setup)
    (c : Console) : (c.after setup commands).settingsFile = c.settingsFile := by
  refine after_induction setup c commands
    (motive := fun next => next.settingsFile = c.settingsFile) ?_ ?_
  · rfl
  · intro next command hmem hnext
    have hsave : command ≠ .save := fun heq => h (heq ▸ hmem)
    rw [settingsFile_perform hsave, hnext]

/-- **What the settings file holds in the end.** If nothing was saved it is what it was. Otherwise
it is read as the settings that were in force when they were last saved, and there is only one choice
for these. A word that names no preset changes nothing at all. -/
theorem load_settingsFile (h : setup.Accepts) (settingsFile : FileState)
    (env : String → Option String) (input : List UInt8) :
    let console := ((start settingsFile env).transcript setup input).console
    ∃ commands, Scripted input commands ∧
      (Command.save ∉ commands → console.settingsFile = settingsFile) ∧
      (∀ past rest, commands = past ++ .save :: rest → Command.save ∉ rest →
        ∃ s, Settings.load console.settingsFile = .ok s ∧
          ∀ s', InForce settingsFile env past s' ↔ s' = s) ∧
      ∀ (c : Console) word, (∀ speed : Speed, ¬ speed.NamedBy word) →
        (c.perform setup (.speed word)).2 = c := by
  intro console
  have hconsole : console = (start settingsFile env).after setup (script input) :=
    transcript_console setup (start settingsFile env) input
  refine ⟨script input, scripted_script input, ?_, ?_, ?_⟩
  · intro hnone
    rw [hconsole, settingsFile_after hnone]
    rfl
  · intro past rest hscript hrest
    refine ⟨((start settingsFile env).after setup past).settings, ?_, fun s' => inForce_iff setup⟩
    -- nothing behind the last save touches the file
    rw [hconsole, hscript, after_append, after_cons, settingsFile_after hrest, settingsFile_save h]
    exact Settings.load_ofText_write _
  · intro c word hword
    exact perform_speed_of_not_namedBy hword setup c

/-- An unknown word between two choices, and a choice behind the last save. -/
theorem load_settingsFile_fast :
    let setup : Setup :=
      { read := fun _ _ => .absent .missing, settingsPath := some "settings.json" }
    let input := Text.encodeUtf8 "save\nspeed  FAST\nspeed warp\nsave\nspeed slow".toList
    setup.Accepts ∧ Settings.load
      ((start (.absent .missing) fun _ => none).transcript setup input).console.settingsFile =
        .ok (Settings.preset .fast) := by
  intro setup input
  have haccepts : setup.Accepts := ⟨rfl, fun _ _ => rfl⟩
  have hscript : script input =
      [.save, .speed "FAST", .speed "warp"] ++ .save :: [.speed "slow"] := by
    decide +kernel
  have hfast : Speed.fast.NamedBy "FAST" := ⟨"fast", by decide, by decide⟩
  have hwarp : ∀ later ∈ [Command.speed "warp"], ∀ speed, ¬ Chooses later speed := by
    have hparse : Speed.parse "warp" = .error (.config "unknown speed preset 'warp'") := by
      decide +kernel
    refine List.forall_mem_singleton.mpr fun speed => ?_
    rintro ⟨hspeed⟩
    exact nomatch hparse.symm.trans (Speed.parse_eq_ok_iff.mpr hspeed)
  obtain ⟨commands, hscripted, -, hload, -⟩ :=
    load_settingsFile haccepts (.absent .missing) (fun _ => none) input
  obtain ⟨s, hs, hforce⟩ := hload _ _ (hscripted.eq_script.symm.trans hscript) (by decide)
  have hsplit : [Command.save, .speed "FAST", .speed "warp"] =
      [.save] ++ .speed "FAST" :: [.speed "warp"] := rfl
  have hlast : InForce (.absent .missing) (fun _ => none) [.save, .speed "FAST", .speed "warp"]
      (Settings.preset .fast) := .chosen hsplit (.speed hfast) hwarp
  exact ⟨haccepts, hs.trans (congrArg _ ((hforce _).mp hlast).symm)⟩

end KeyPlan.Console
