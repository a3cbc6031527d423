import Mathlib.Data.List.Induction
import Mathlib.Data.List.Nodup
import TextShell.CommandLine.Program

/-!
# Options in any order

Arguments that consist of options with their values. An option takes whatever stands behind it, an
option and the request for help as well, so the values do not decide how the arguments are read.
What is set is a matter of which settings are given which values, and not of their order; a setting
that is given twice, by whichever of its options, is one too many.

* `Settings.Choice`: an option with its value.
* `Settings.Follows`: settings have the values that are chosen, and else their defaults.
* `Settings.Given.Records.exists_readFrom_append`: what is noted after some choices.
* `Settings.read_written`: what the arguments for a list of choices ask for.
-/

namespace TextShell

namespace Setting

/-- The options for a setting. -/
def spellings : Setting → List String
  | directory => ["-C", "--dir"]
  | prompt => ["--prompt"]
  | history => ["--history"]
  | logLevel => ["--log-level"]

/-- The value of a setting that is not given, if it has one. -/
def default? : Setting → Option String
  | directory => none
  | prompt => some ReadLoop.defaultPrompt
  | history => none
  | logLevel => some "warn"

/-- An option is for the setting among whose options it is. -/
theorem ofOption?_of_mem_spellings (setting : Setting) :
    ∀ option ∈ setting.spellings, ofOption? option = some setting := by
  cases setting <;> decide

/-- An option is neither the request for help nor the end of options. -/
theorem isPlain_of_mem_spellings (setting : Setting) :
    ∀ option ∈ setting.spellings, (option ≠ "--help" ∧ option ≠ "help") ∧
      option.toList.head? = some '-' ∧ option ≠ "--" := by
  cases setting <;> decide

end Setting

namespace Settings

/-- An option with its value. -/
structure Choice where
  /-- What is set. -/
  setting : Setting
  /-- The option as it is given. -/
  option : String
  /-- What stands behind it, which can be any text. -/
  value : String
  /-- The option is one for the setting. -/
  mem_spellings : option ∈ setting.spellings

/-- The arguments for choices: each option and its value behind it. -/
def written (choices : List Choice) : List String :=
  choices.flatMap fun choice => [choice.option, choice.value]

/-- The settings that choices are about. -/
def chosen (choices : List Choice) : List Setting := choices.map Choice.setting

/-- The value of a setting, if it has one. -/
def value? (settings : Settings) : Setting → Option String
  | .directory => settings.directory?
  | .prompt => some settings.prompt
  | .history => settings.history?
  | .logLevel => some settings.logLevel

/-- Settings are as they are chosen: each one that is chosen has the chosen value, and each other
one its default. -/
structure Follows (settings : Settings) (choices : List Choice) : Prop where
  /-- What is chosen holds. -/
  value?_eq_some {choice : Choice} :
    choice ∈ choices → settings.value? choice.setting = some choice.value
  /-- What is not chosen is as it is by default. -/
  value?_eq_default {setting : Setting} :
    setting ∉ chosen choices → settings.value? setting = setting.default?

variable {settings other : Settings} {choice : Choice} {choices before order : List Choice}

theorem mem_chosen (h : choice ∈ choices) : choice.setting ∈ chosen choices :=
  List.mem_map_of_mem h

/-- Settings with the same values are the same. -/
theorem ext_value? (h : ∀ setting, settings.value? setting = other.value? setting) :
    settings = other := by
  obtain ⟨directory, prompt, history, level⟩ := settings
  obtain ⟨directory', prompt', history', level'⟩ := other
  have hdirectory : directory = directory' := h .directory
  have hprompt : prompt = prompt' := Option.some.inj (h .prompt)
  have hhistory : history = history' := h .history
  have hlevel : level = level' := Option.some.inj (h .logLevel)
  rw [hdirectory, hprompt, hhistory, hlevel]

/-- Choices leave no room for other settings. -/
theorem Follows.eq (h : settings.Follows choices) (hother : other.Follows choices) :
    settings = other := by
  apply ext_value?
  intro setting
  by_cases hchosen : setting ∈ chosen choices
  · obtain ⟨choice, hchoice, rfl⟩ := List.mem_map.mp hchosen
    rw [h.value?_eq_some hchoice, hother.value?_eq_some hchoice]
  · rw [h.value?_eq_default hchosen, hother.value?_eq_default hchosen]

/-- The order of choices does not matter to what they say. -/
theorem Follows.perm (h : settings.Follows choices) (horder : order.Perm choices) :
    settings.Follows order where
  value?_eq_some hchoice := h.value?_eq_some (horder.mem_iff.mp hchoice)
  value?_eq_default hchosen :=
    h.value?_eq_default fun hmem => hchosen ((horder.map Choice.setting).mem_iff.mpr hmem)

/-! ### Reading choices -/

namespace Given

variable {given : Given}

@[simp]
theorem value?_set_self (given : Given) (setting : Setting) (value : String) :
    (given.set setting value).value? setting = some value := if_pos rfl

theorem value?_set_of_ne (given : Given) {setting other : Setting} (value : String)
    (h : other ≠ setting) : (given.set setting value).value? other = given.value? other :=
  if_neg h

/-- The values noted so far are those of the choices read so far. -/
structure Records (given : Given) (choices : List Choice) : Prop where
  /-- The value of each choice is noted. -/
  value?_eq_some {choice : Choice} :
    choice ∈ choices → given.value? choice.setting = some choice.value
  /-- Nothing else is noted. -/
  value?_eq_none {setting : Setting} :
    setting ∉ chosen choices → given.value? setting = none

theorem records_nothing : nothing.Records [] where
  value?_eq_some h := by cases h
  value?_eq_none _ := rfl

/-- One more setting is noted with its value. -/
theorem Records.set (h : given.Records before) (hnew : choice.setting ∉ chosen before) :
    (given.set choice.setting choice.value).Records (before ++ [choice]) where
  value?_eq_some {found} hfound := by
    obtain hfound | hfound := List.mem_append.mp hfound
    · have hne : found.setting ≠ choice.setting := fun heq => hnew (heq ▸ mem_chosen hfound)
      rw [value?_set_of_ne _ _ hne, h.value?_eq_some hfound]
    · obtain rfl := List.mem_singleton.mp hfound
      exact value?_set_self ..
  value?_eq_none {setting} hsetting := by
    rw [chosen, List.map_append, List.mem_append, not_or] at hsetting
    have hne : setting ≠ choice.setting := by simpa using hsetting.2
    rw [value?_set_of_ne _ _ hne, h.value?_eq_none hsetting.1]

/-- A setting that was chosen is noted. -/
theorem Records.isSome_iff (h : given.Records choices) {setting : Setting} :
    (given.value? setting).isSome = true ↔ setting ∈ chosen choices := by
  constructor
  · intro hsome
    by_cases hmem : setting ∈ chosen choices
    · exact hmem
    · rw [h.value?_eq_none hmem] at hsome
      cases hsome
  · intro hmem
    obtain ⟨found, hfound, rfl⟩ := List.mem_map.mp hmem
    rw [h.value?_eq_some hfound]
    rfl

/-- What is noted becomes the settings, with the defaults for the rest. -/
theorem Records.follows (h : given.Records choices) : given.settings.Follows choices where
  value?_eq_some {choice} hchoice := by
    have hvalue := h.value?_eq_some hchoice
    cases hsetting : choice.setting <;> rw [hsetting] at hvalue <;>
      simp [Given.settings, Settings.value?, hvalue]
  value?_eq_default {setting} hsetting := by
    have hvalue := h.value?_eq_none hsetting
    cases setting <;> simp [Given.settings, Settings.value?, Setting.default?, hvalue]

/-- An option and its value are read together, whatever the value is. -/
theorem readFrom_choice (given : Given) (choice : Choice) (rest : List String) :
    readFrom given false false (choice.option :: choice.value :: rest) =
      if (given.value? choice.setting).isSome then
        .bad (.repeated choice.option choice.value)
      else readFrom (given.set choice.setting choice.value) false false rest := by
  obtain ⟨⟨hlong, hshort⟩, hdash, hend⟩ :=
    Setting.isPlain_of_mem_spellings _ _ choice.mem_spellings
  have hoption := Setting.ofOption?_of_mem_spellings _ _ choice.mem_spellings
  -- the option is none of the words that are looked at first, so what stands behind it is not read
  rw [readFrom.eq_def]
  simp [hlong, hshort, hdash, hend, hoption]

/-- Choices of different settings, none of them noted before, are noted one by one. -/
theorem Records.exists_readFrom_append (h : given.Records before)
    (hnodup : (chosen (before ++ choices)).Nodup) :
    ∃ after : Given, after.Records (before ++ choices) ∧ ∀ rest,
      readFrom given false false (written choices ++ rest) =
        readFrom after false false rest := by
  induction choices generalizing given before with
  | nil => exact ⟨given, by simpa using h, fun _ => rfl⟩
  | cons choice choices ih =>
    rw [List.append_cons] at hnodup ⊢
    -- the setting of the first choice is not among those that were noted
    have hnew : choice.setting ∉ chosen before := by
      have hfirst := hnodup.sublist ((List.sublist_append_left _ choices).map Choice.setting)
      rw [List.map_append, List.nodup_append] at hfirst
      exact fun hmem => hfirst.2.2 _ hmem _ (by simp) rfl
    obtain ⟨after, hafter, hread⟩ := ih (h.set hnew) hnodup
    refine ⟨after, hafter, fun rest => ?_⟩
    have hfree : ¬ (given.value? choice.setting).isSome = true := mt h.isSome_iff.mp hnew
    -- the first two arguments are the choice, and those of the others follow
    have hwritten : written (choice :: choices) ++ rest =
        choice.option :: choice.value :: (written choices ++ rest) := rfl
    rw [hwritten, readFrom_choice, if_neg hfree, hread]

end Given

/-- Choices of different settings are read as the settings that follow them. -/
theorem exists_read_of_nodup (h : (chosen choices).Nodup) :
    ∃ settings : Settings, settings.Follows choices ∧
      read (written choices) = .settings settings := by
  obtain ⟨after, hafter, hread⟩ := Given.records_nothing.exists_readFrom_append h
  refine ⟨after.settings, hafter.follows, ?_⟩
  have hend := hread []
  rw [List.append_nil] at hend
  rw [read, hend]
  rfl

/-- Where a setting is chosen again, there is a first choice that repeats one. -/
theorem exists_first_repeated (h : ¬ (chosen choices).Nodup) :
    ∃ before choice after, choices = before ++ choice :: after ∧ (chosen before).Nodup ∧
      choice.setting ∈ chosen before := by
  induction choices using List.reverseRecOn with
  | nil => exact absurd List.nodup_nil h
  | append_singleton choices last ih =>
    by_cases hnodup : (chosen choices).Nodup
    · -- only the last choice can be the one that repeats
      refine ⟨choices, last, [], rfl, hnodup, Decidable.byContradiction fun hnew => h ?_⟩
      have hall := hnodup.concat hnew
      rw [List.concat_eq_append] at hall
      simpa [chosen] using hall
    · obtain ⟨before, choice, after, rfl, hbefore, hmem⟩ := ih hnodup
      exact ⟨before, choice, after ++ [last], by simp, hbefore, hmem⟩

/-- A choice that repeats a setting is refused, and names the option that was one too many. -/
theorem read_of_repeated (hnodup : (chosen before).Nodup)
    (hmem : choice.setting ∈ chosen before) (after : List Choice) :
    read (written (before ++ choice :: after)) =
      .bad (.repeated choice.option choice.value) := by
  obtain ⟨given, hgiven, hread⟩ := Given.records_nothing.exists_readFrom_append hnodup
  -- by then the setting is noted
  have hwritten : written (before ++ choice :: after) =
      written before ++ choice.option :: choice.value :: written after := by
    simp [written]
  rw [read, hwritten, hread, Given.readFrom_choice, if_pos (hgiven.isSome_iff.mpr hmem)]

/-- The session starts in the directory that is chosen. -/
theorem Follows.workspace_start (h : settings.Follows choices) (hchoice : choice ∈ choices)
    (hsetting : choice.setting = .directory) (files : FileSystem) :
    (Session.start files (Program.directory settings files)).workspace =
      { directory := choice.value, closing := false } := by
  have hvalue : settings.directory? = some choice.value := by
    have hgiven := h.value?_eq_some hchoice
    rwa [hsetting] at hgiven
  rw [Program.directory, hvalue]
  rfl

/-- Where no directory is chosen, the session starts in the working directory. -/
theorem Follows.workspace_start_of_not_mem (h : settings.Follows choices)
    (hchosen : .directory ∉ chosen choices) (files : FileSystem) :
    (Session.start files (Program.directory settings files)).workspace =
      { directory := Location.path files.workingDirectory, closing := false } := by
  have hvalue : settings.directory? = none := h.value?_eq_default hchosen
  rw [Program.directory, hvalue]
  rfl

/-- What the arguments for choices ask for. Where no setting is chosen twice they are read, and so
are those for the choices in any other order, as the one thing that the choices say: each chosen
setting has its value and each other one its default, and the session starts in the chosen
directory, or in the working directory. Where a setting is chosen twice, the first choice that
repeats one is refused. -/
theorem read_written (choices : List Choice) :
    ((chosen choices).Nodup → ∃ settings : Settings, settings.Follows choices ∧
      (∀ choice ∈ choices, choice.setting = .directory → ∀ files,
        (Session.start files (Program.directory settings files)).workspace =
          { directory := choice.value, closing := false }) ∧
      (.directory ∉ chosen choices → ∀ files,
        (Session.start files (Program.directory settings files)).workspace =
          { directory := Location.path files.workingDirectory, closing := false }) ∧
      ∀ order : List Choice, order.Perm choices → read (written order) = .settings settings) ∧
    (¬ (chosen choices).Nodup → ∃ before choice after, choices = before ++ choice :: after ∧
      (chosen before).Nodup ∧ choice.setting ∈ chosen before ∧
      read (written choices) = .bad (.repeated choice.option choice.value)) := by
  constructor
  · intro hnodup
    -- these are the settings of the given order, and what they say is said in any other order
    obtain ⟨settings, hfollows, -⟩ := exists_read_of_nodup hnodup
    refine ⟨settings, hfollows, fun _ => hfollows.workspace_start,
      hfollows.workspace_start_of_not_mem, fun order horder => ?_⟩
    have hchosen : (chosen order).Nodup := (horder.map Choice.setting).nodup_iff.mpr hnodup
    obtain ⟨found, hfound, hread⟩ := exists_read_of_nodup hchosen
    -- both settings are what the choices say
    rw [hread, hfound.eq (hfollows.perm horder)]
  · intro hrepeated
    obtain ⟨before, choice, after, rfl, hnodup, hmem⟩ := exists_first_repeated hrepeated
    exact ⟨before, choice, after, rfl, hnodup, hmem, read_of_repeated hnodup hmem after⟩

/-- Values that look like options, the end of options and the request for help are values, and the
two options for the directory count as one. -/
theorem read_written_options_as_values :
    let choices : List Choice :=
      [⟨.prompt, "--prompt", "--dir", by decide⟩, ⟨.directory, "-C", "--", by decide⟩,
        ⟨.logLevel, "--log-level", "help", by decide⟩,
        ⟨.history, "--history", "", by decide⟩]
    (chosen choices).Nodup ∧
      read ["--history", "", "--log-level", "help", "-C", "--", "--prompt", "--dir"] =
        .settings ⟨some "--", "--dir", some "", "help"⟩ ∧
      ∃ fault, read ["--prompt", "--dir", "-C", "a", "--dir", "a"] = .bad fault := by
  intro choices
  have hnodup : (chosen choices).Nodup := by decide
  refine ⟨hnodup, ?_, ?_⟩
  · obtain ⟨settings, hfollows, -, -, hread⟩ := (read_written choices).1 hnodup
    have hsettings : (⟨some "--", "--dir", some "", "help"⟩ : Settings).Follows choices :=
      { value?_eq_some := by simp [choices, value?]
        value?_eq_default := fun {setting} hnot => by
          cases setting <;> simp [choices, chosen] at hnot }
    rw [← hfollows.eq hsettings]
    exact hread _ (List.reverse_perm choices)
  · have hrepeated := (read_written [⟨.prompt, "--prompt", "--dir", by decide⟩,
      ⟨.directory, "-C", "a", by decide⟩, ⟨.directory, "--dir", "a", by decide⟩]).2 (by decide)
    obtain ⟨_, choice, _, -, -, -, hread⟩ := hrepeated
    exact ⟨_, hread⟩

end Settings

end TextShell
