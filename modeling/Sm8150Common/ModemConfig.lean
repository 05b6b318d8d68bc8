import Sm8150Common.Library.Copying
import Sm8150Common.Library.Progress

/-! # The modem's configuration is that of its firmware

At boot `init.qcom.sh` compares the version of the configuration in `/data` with that of the
firmware, and where they differ it removes the one and copies the other (lines 31–52).  When it
is through, a property tells the radio to go on.

The version is copied after what it is the version of, so it can be believed even where a boot
was cut short: by `comes_through` the radio never goes on with the configuration of another
firmware or with part of its own, over boots with any firmware and cut short anywhere.  Two
things are asked of the boots.  Files are removed in no order; where that is cut short, the old
version may stand beside what is left, and the next firmware to boot must be another one.  And
no `rm` or `cp` may fail: the script does not look, and what it has done by halves it gives the
version of the whole.

`configs/*` and `modem_config/*` do not stand for names with a dot in front.  `mbn_ota.txt` is
copied after the version, and nothing is said about it.  What is written stays written, in the
order of the writes.  Owners and modes are left out. -/
namespace ModemConfig

open Copying

abbrev Text := List Char

/-- Configuration files, by their path. -/
abbrev Configs := Directory String Char

def VER_INFO : String := "ver_info.txt"

def MBN_OTA : String := "mbn_ota.txt"

/-- What a `*` at the end stands for: the shell leaves out names with a dot in front. -/
def globbed (path : String) : Bool := path.toList.head? != some '.'

/-- What is mounted at `/vendor/firmware_mnt`, as far as the script reads it.  The
configuration has neither of the two names that are copied beside it. -/
structure Firmware where
  configs : Configs
  ver_info : Option Text
  mbn_ota : Option Text
  outside : ∀ file ∈ configs.entries, file.1 ≠ VER_INFO ∧ file.1 ≠ MBN_OTA

namespace Firmware
variable (fw : Firmware)

/-- What is copied beside the configuration, if it exists. -/
def marks : List (File String Char) :=
  (fw.ver_info.map fun text => ⟨VER_INFO, text⟩).toList ++
    (fw.mbn_ota.map fun text => ⟨MBN_OTA, text⟩).toList

/-- The configuration as it is copied. -/
def copied : Configs := restrict fw.configs globbed

/-- All the script copies, in its order. -/
def files : List (File String Char) := fw.copied.entries ++ fw.marks

end Firmware

/-- What the shell makes of a file: nothing if there is none, and no newlines at the end. -/
def version (file : Option Text) : Text :=
  ((file.getD []).reverse.dropWhile (· = '\n')).reverse

/-- The script has nothing to copy. -/
def UpToDate (configs : Configs) (fw : Firmware) : Prop :=
  fw.ver_info.isSome ∧ version (configs.lookup VER_INFO) = version fw.ver_info

instance UpToDate.decidable (configs : Configs) (fw : Firmware) :
    Decidable (UpToDate configs fw) :=
  inferInstanceAs (Decidable (_ ∧ _))

/-- Where the script is: it removes files, it has some to copy, or it is through. -/
inductive Stage
  | clearing
  | copying (rest : List (File String Char))
  | completed

/-- The directory in `/data`, the script if it runs or has run since the phone was switched
on, and whether the last one was stopped while it removed files. -/
structure Phone where
  modem_config : Configs
  script : Option (Firmware × Stage)
  torn : Bool

/-- `cleared` and `failCopy`: the `rm` is through, whatever it could not remove; a file could
not be copied, and a part of it has been written if any. -/
inductive PhoneStep
  | boot (fw : Firmware)
  | remove (path : String)
  | cleared
  | copy
  | failCopy (written : Option Nat)
  | setprop
  | interrupt (written : Option Nat)

namespace Phone

/-- What a file that is cut short leaves. -/
def cutShort (d : Configs) (rest : List (File String Char)) (written : Option Nat) : Configs :=
  match rest, written with
  | file :: _, some n => d.insert file.1 (file.2.take n)
  | _, _ => d

def step (s : Phone) : PhoneStep → Option Phone
  | .boot fw =>
    if s.script.isNone then
      some { s with
        script := some (fw, if UpToDate s.modem_config fw then .completed else .clearing)
        torn := false }
    else none
  | .remove path =>
    match s.script with
    | some (_, .clearing) =>
      if path ∈ s.modem_config ∧ globbed path = true then
        some { s with modem_config := s.modem_config.erase path }
      else none
    | _ => none
  | .cleared =>
    match s.script with
    | some (fw, .clearing) => some { s with script := some (fw, .copying fw.files) }
    | _ => none
  | .copy =>
    match s.script with
    | some (fw, .copying (file :: rest)) =>
      some { s with
        modem_config := s.modem_config.insert file.1 file.2
        script := some (fw, .copying rest) }
    | _ => none
  | .failCopy written =>
    match s.script with
    | some (fw, .copying (file :: rest)) =>
      some { s with
        modem_config := cutShort s.modem_config (file :: rest) written
        script := some (fw, .copying rest) }
    | _ => none
  | .setprop =>
    match s.script with
    | some (fw, .copying []) => some { s with script := some (fw, .completed) }
    | _ => none
  | .interrupt written =>
    match s.script with
    | some (_, .clearing) => some { s with script := none, torn := true }
    | some (_, .copying rest) =>
      some { s with
        modem_config := cutShort s.modem_config rest written
        script := none }
    | some (_, .completed) => some { s with script := none }
    | none => none

/-- The phone is new, or has been reset. -/
def machine : StepMachine Phone PhoneStep where
  init s := s.modem_config = ∅ ∧ s.script = none ∧ s.torn = false
  step := step

/-- Only firmware that was released is booted; and none that is up to date by the version that
stands there, if the last script was stopped while it removed files.  No `rm` and no `cp`
fails. -/
def Orderly (released : Firmware → Prop) (s : Phone) : PhoneStep → Prop
  | .boot fw => released fw ∧ (s.torn = true → ¬ UpToDate s.modem_config fw)
  | .cleared => ∀ path ∈ s.modem_config, globbed path = false
  | .failCopy _ => False
  | _ => True

end Phone

/-- Releases have versions, and no version is the beginning of that of another release. -/
structure Versioned (released : Firmware → Prop) : Prop where
  nonempty : ∀ fw, released fw → fw.ver_info.isSome → version fw.ver_info ≠ []
  distinct : ∀ fw other text n, released fw → released other → fw.ver_info = some text →
    other.ver_info.isSome → version (some (text.take n)) = version other.ver_info → fw = other

/-! ## The version can be believed -/

/-- All of the firmware's configuration is there, and no other file but the two marks. -/
def Installed (fw : Firmware) (configs : Configs) : Prop :=
  ∀ path, path ≠ VER_INFO → path ≠ MBN_OTA → configs.lookup path = fw.copied.lookup path

/-- Where the version is that of a release, so is the configuration. -/
def Truthful (released : Firmware → Prop) (configs : Configs) : Prop :=
  ∀ fw, released fw → UpToDate configs fw → Installed fw configs

/-- Only names that the shell finds are copied beside the marks. -/
theorem Firmware.mem_copied {fw : Firmware} {file : File String Char}
    (h : file ∈ fw.copied.entries) : file ∈ fw.configs.entries ∧ globbed file.1 = true :=
  List.mem_filter.mp h

theorem Firmware.mem_marks {fw : Firmware} {path : String} {text : Text}
    (h : ⟨path, text⟩ ∈ fw.marks) :
    path = VER_INFO ∧ fw.ver_info = some text ∨ path = MBN_OTA ∧ fw.mbn_ota = some text := by
  rcases List.mem_append.mp h with h | h
  · obtain ⟨contents, hcontents, hfile⟩ := Option.map_eq_some_iff.mp (Option.mem_toList.mp h)
    cases hfile
    exact Or.inl ⟨rfl, hcontents⟩
  · obtain ⟨contents, hcontents, hfile⟩ := Option.map_eq_some_iff.mp (Option.mem_toList.mp h)
    cases hfile
    exact Or.inr ⟨rfl, hcontents⟩

/-- Whatever has been copied of the marks, the configuration is in place. -/
theorem installed_of_interrupted {fw : Firmware} {rest : List (File String Char)}
    (h : Interrupted fw.marks rest) : Installed fw (copy ∅ (fw.copied.entries ++ rest)) := by
  intro path hver hmbn
  rw [copy_append]
  rcases lookup_copy (copy ∅ fw.copied.entries) rest path with ⟨contents, hmem, -⟩ | ⟨-, hlookup⟩
  · obtain ⟨text, n, hmark, -⟩ := h.mem hmem
    rcases Firmware.mem_marks hmark with ⟨hpath, -⟩ | ⟨hpath, -⟩
    · exact absurd hpath hver
    · exact absurd hpath hmbn
  · rw [hlookup, lookup_copy_entries]

/-- The version that a copy has left behind is the beginning of the firmware's, and then the
configuration is in place. -/
theorem lookup_ver_info {fw : Firmware} {written : List (File String Char)}
    (h : Interrupted fw.files written) :
    (copy ∅ written).lookup VER_INFO = none ∨
    Installed fw (copy ∅ written) ∧
      ∃ text n, fw.ver_info = some text ∧
        (copy ∅ written).lookup VER_INFO = some (text.take n) := by
  rcases lookup_copy ∅ written VER_INFO with ⟨contents, hmem, hlookup⟩ | ⟨-, hlookup⟩
  · refine Or.inr ?_
    rcases h.of_append with hconfigs | ⟨rest, rfl, hmarks⟩
    · obtain ⟨text, n, hfile, -⟩ := hconfigs.mem hmem
      exact absurd rfl (fw.outside _ (Firmware.mem_copied hfile).1).1
    · refine ⟨installed_of_interrupted hmarks, ?_⟩
      rcases List.mem_append.mp hmem with hfile | hfile
      · exact absurd rfl (fw.outside _ (Firmware.mem_copied hfile).1).1
      · obtain ⟨text, n, hmark, hcut⟩ := hmarks.mem hfile
        rcases Firmware.mem_marks hmark with ⟨-, htext⟩ | ⟨hpath, -⟩
        · exact ⟨text, n, htext, hlookup.trans (congrArg some hcut)⟩
        · exact absurd (show VER_INFO = MBN_OTA from hpath) (by decide)
  · exact Or.inl hlookup

variable {released : Firmware → Prop}

/-- A copy into the empty directory may stop at any time. -/
theorem truthful_of_interrupted (hversioned : Versioned released) {fw : Firmware}
    (hfw : released fw) {written : List (File String Char)} (h : Interrupted fw.files written) :
    Truthful released (copy ∅ written) := by
  rintro other hother ⟨hsome, hversion⟩
  rcases lookup_ver_info h with hnone | ⟨hinstalled, text, n, htext, hlookup⟩
  · rw [hnone] at hversion
    exact absurd hversion.symm (hversioned.nonempty other hother hsome)
  · rw [hlookup] at hversion
    obtain rfl := hversioned.distinct fw other text n hfw hother htext hsome hversion
    exact hinstalled

namespace Phone
variable {s t : Phone}

/-- The version can be believed, unless files are being removed or were when the script was
stopped; while files are copied, those that are not left are there and no others. -/
def Invariant (released : Firmware → Prop) (s : Phone) : Prop :=
  match s.script with
  | none => s.torn = false → Truthful released s.modem_config
  | some (fw, .clearing) => released fw ∧ s.torn = false
  | some (fw, .copying rest) => released fw ∧ s.torn = false ∧
      ∃ copied, fw.files = copied ++ rest ∧ s.modem_config = copy ∅ copied
  | some (fw, .completed) =>
      s.torn = false ∧ Truthful released s.modem_config ∧ Installed fw s.modem_config

/-- Only names that the shell finds have come into the directory, or are to be copied. -/
def Plain (s : Phone) : Prop :=
  (∀ path ∈ s.modem_config, globbed path = true) ∧
    ∀ fw rest, s.script = some (fw, .copying rest) → ∀ file ∈ rest, globbed file.1 = true

theorem plain_init (h : machine.init s) : s.Plain := by
  obtain ⟨hconfig, hscript, -⟩ := h
  refine ⟨fun path hpath => ?_, fun fw rest hcopying => ?_⟩
  · rw [hconfig] at hpath
    exact absurd hpath (AList.notMem_empty path)
  · rw [hscript] at hcopying
    cases hcopying

theorem globbed_of_mem_files {fw : Firmware} {file : File String Char} (h : file ∈ fw.files) :
    globbed file.1 = true := by
  rcases List.mem_append.mp h with hcopied | hmark
  · exact (Firmware.mem_copied hcopied).2
  · rcases Firmware.mem_marks hmark with ⟨hpath, -⟩ | ⟨hpath, -⟩
    · rw [hpath]
      decide
    · rw [hpath]
      decide

/-- A file is copied, or a part of it, or nothing. -/
theorem globbed_insert (hs : ∀ path ∈ s.modem_config, globbed path = true)
    {file : File String Char} (hfile : globbed file.1 = true) (contents : Text) :
    ∀ path ∈ s.modem_config.insert file.1 contents, globbed path = true := by
  intro path hpath
  rcases AList.mem_insert _ |>.mp hpath with rfl | hpath
  · exact hfile
  · exact hs path hpath

theorem globbed_cutShort (hs : ∀ path ∈ s.modem_config, globbed path = true)
    {rest : List (File String Char)} (hrest : ∀ file ∈ rest, globbed file.1 = true)
    (written : Option Nat) :
    ∀ path ∈ cutShort s.modem_config rest written, globbed path = true := by
  unfold cutShort
  split
  · exact globbed_insert hs (hrest _ List.mem_cons_self) _
  · exact hs

theorem plain_step {l : PhoneStep} (hs : s.Plain) (h : s.step l = some t) : t.Plain := by
  obtain ⟨hconfig, hrest⟩ := hs
  cases l with
  | boot fw =>
    obtain ⟨hoff, ht⟩ := Option.ite_none_right_eq_some.mp h
    obtain rfl := Option.some.inj ht
    refine ⟨hconfig, fun fw' rest hcopying => ?_⟩
    dsimp only at hcopying
    split at hcopying <;> cases hcopying
  | remove path =>
    dsimp only [step] at h
    split at h
    · obtain ⟨-, ht⟩ := Option.ite_none_right_eq_some.mp h
      obtain rfl := Option.some.inj ht
      exact ⟨fun other hother => hconfig other (AList.mem_erase.mp hother).2, hrest⟩
    · cases h
  | cleared =>
    dsimp only [step] at h
    split at h
    · obtain rfl := Option.some.inj h
      refine ⟨hconfig, ?_⟩
      rintro fw rest ⟨⟩ file hfile
      exact globbed_of_mem_files hfile
    · cases h
  | copy =>
    dsimp only [step] at h
    split at h
    · rename_i fw file rest hscript
      obtain rfl := Option.some.inj h
      obtain ⟨hfile, hlater⟩ := List.forall_mem_cons.mp (hrest _ _ hscript)
      refine ⟨globbed_insert hconfig hfile _, ?_⟩
      rintro fw rest ⟨⟩
      exact hlater
    · cases h
  | failCopy written =>
    dsimp only [step] at h
    split at h
    · rename_i fw file rest hscript
      obtain rfl := Option.some.inj h
      have hall := hrest _ _ hscript
      refine ⟨globbed_cutShort hconfig hall written, ?_⟩
      rintro fw rest ⟨⟩
      exact (List.forall_mem_cons.mp hall).2
    · cases h
  | setprop =>
    dsimp only [step] at h
    split at h
    · obtain rfl := Option.some.inj h
      exact ⟨hconfig, nofun⟩
    · cases h
  | interrupt written =>
    dsimp only [step] at h
    split at h
    · obtain rfl := Option.some.inj h
      exact ⟨hconfig, nofun⟩
    · rename_i fw rest hscript
      obtain rfl := Option.some.inj h
      exact ⟨globbed_cutShort hconfig (hrest _ _ hscript) written, nofun⟩
    · obtain rfl := Option.some.inj h
      exact ⟨hconfig, nofun⟩
    · cases h

theorem invariant_init (hversioned : Versioned released) (h : machine.init s) :
    s.Invariant released := by
  obtain ⟨hconfig, hscript, -⟩ := h
  rw [Invariant, hscript]
  intro _ fw hfw
  rw [hconfig]
  exact truthful_of_interrupted hversioned hfw .here fw hfw

theorem invariant_boot {fw : Firmware} (hs : s.Invariant released)
    (hok : s.Orderly released (.boot fw)) (h : s.step (.boot fw) = some t) :
    t.Invariant released := by
  obtain ⟨hoff, ht⟩ := Option.ite_none_right_eq_some.mp h
  obtain rfl := Option.some.inj ht
  rw [Invariant, Option.isNone_iff_eq_none.mp hoff] at hs
  by_cases hup : UpToDate s.modem_config fw
  · have htruthful : Truthful released s.modem_config := by
      refine hs (Bool.eq_false_iff.mpr fun htorn => ?_)
      exact hok.2 htorn hup
    rw [if_pos hup]
    exact ⟨rfl, htruthful, htruthful fw hok.1 hup⟩
  · rw [if_neg hup]
    exact ⟨hok.1, rfl⟩

/-- What has been copied when the script is stopped. -/
theorem truthful_cutShort (hversioned : Versioned released) {fw : Firmware} (hfw : released fw)
    {copied rest : List (File String Char)} (hfiles : fw.files = copied ++ rest)
    (written : Option Nat) : Truthful released (cutShort (copy ∅ copied) rest written) := by
  have hstop : ∀ part, Interrupted rest part →
      Truthful released (copy (copy ∅ copied) part) := by
    intro part hpart
    rw [← copy_append]
    refine truthful_of_interrupted hversioned hfw ?_
    rw [hfiles]
    exact hpart.append_left copied
  unfold cutShort
  split
  · rename_i file rest n
    exact hstop _ (.within n)
  · exact hstop _ .here

theorem invariant_interrupt (hversioned : Versioned released) {written : Option Nat}
    (hs : s.Invariant released) (h : s.step (.interrupt written) = some t) :
    t.Invariant released := by
  unfold Invariant at hs
  dsimp only [step] at h
  split at h
  · obtain rfl := Option.some.inj h
    intro htorn
    cases htorn
  · rename_i fw rest hscript
    obtain rfl := Option.some.inj h
    rw [hscript] at hs
    obtain ⟨hfw, -, copied, hfiles, hconfig⟩ := hs
    intro _
    dsimp only
    rw [hconfig]
    exact truthful_cutShort hversioned hfw hfiles written
  · rename_i fw hscript
    obtain rfl := Option.some.inj h
    rw [hscript] at hs
    exact fun _ => hs.2.1
  · cases h

/-- Where the `rm` has not failed, nothing is left. -/
theorem modem_config_eq_empty (hs : s.Plain) (hok : s.Orderly released .cleared) :
    s.modem_config = ∅ := by
  refine AList.ext (List.eq_nil_iff_forall_not_mem.mpr fun file hfile => ?_)
  have hmem : file.1 ∈ s.modem_config := List.mem_map_of_mem hfile
  exact Bool.false_ne_true ((hok _ hmem).symm.trans (hs.1 _ hmem))

/-- One file more has been copied, or the copy begins or ends. -/
theorem invariant_copying (hversioned : Versioned released) (hs : s.Invariant released)
    (hplain : s.Plain) {l : PhoneStep} (hl : l = .cleared ∨ l = .copy ∨ l = .setprop)
    (hok : s.Orderly released l) (h : s.step l = some t) : t.Invariant released := by
  unfold Invariant at hs
  rcases hl with rfl | rfl | rfl
  · dsimp only [step] at h
    split at h
    · rename_i fw hscript
      obtain rfl := Option.some.inj h
      rw [hscript] at hs
      -- nothing is left and nothing copied
      exact ⟨hs.1, hs.2, [], rfl, modem_config_eq_empty (s := s) hplain hok⟩
    · cases h
  · dsimp only [step] at h
    split at h
    · rename_i fw file rest hscript
      obtain rfl := Option.some.inj h
      rw [hscript] at hs
      obtain ⟨hfw, htorn, copied, hfiles, hconfig⟩ := hs
      refine ⟨hfw, htorn, copied ++ [file], ?_, ?_⟩
      · rw [List.append_assoc]
        exact hfiles
      · rw [copy_append, ← hconfig]
        rfl
    · cases h
  · dsimp only [step] at h
    split at h
    · rename_i fw hscript
      obtain rfl := Option.some.inj h
      rw [hscript] at hs
      obtain ⟨hfw, htorn, copied, hfiles, hconfig⟩ := hs
      -- all files have been copied, those with the version among them
      rw [List.append_nil] at hfiles
      refine ⟨htorn, ?_, ?_⟩
      · dsimp only
        rw [hconfig]
        exact truthful_cutShort hversioned hfw (hfiles.trans (List.append_nil _).symm) none
      · dsimp only
        rw [hconfig, ← hfiles]
        exact installed_of_interrupted (.all fw.marks)
    · cases h

theorem invariant_step (hversioned : Versioned released) {l : PhoneStep}
    (hs : s.Invariant released) (hplain : s.Plain) (hok : s.Orderly released l) (h : s.step l = some t) :
    t.Invariant released := by
  cases l with
  | boot fw => exact invariant_boot hs hok h
  | remove path =>
    unfold Invariant at hs
    dsimp only [step] at h
    split at h
    · rename_i fw hscript
      obtain ⟨-, ht⟩ := Option.ite_none_right_eq_some.mp h
      obtain rfl := Option.some.inj ht
      rw [Invariant]
      dsimp only
      rw [hscript] at hs ⊢
      exact hs
    · cases h
  | cleared => exact invariant_copying hversioned hs hplain (Or.inl rfl) hok h
  | copy => exact invariant_copying hversioned hs hplain (Or.inr (Or.inl rfl)) hok h
  | setprop => exact invariant_copying hversioned hs hplain (Or.inr (Or.inr rfl)) hok h
  | failCopy written => exact hok.elim
  | interrupt written => exact invariant_interrupt hversioned hs h

/-! ## The script comes through -/

/-- The script moves. -/
def isScript : PhoneStep → Bool
  | .boot _ => false
  | .interrupt _ => false
  | _ => true

/-- A step for each file that is there and each to be copied, and one at the end of each. -/
def stepsLeft (s : Phone) : Nat :=
  match s.script with
  | some (fw, .clearing) => s.modem_config.entries.length + fw.files.length + 2
  | some (_, .copying rest) => rest.length + 1
  | _ => 0

/-- The script has been started on the firmware. -/
def RunsOn (fw : Firmware) (s : Phone) : Prop := ∃ stage, s.script = some (fw, stage)

theorem length_entries_erase {configs : Configs} {path : String} (h : path ∈ configs) :
    (configs.erase path).entries.length < configs.entries.length := by
  have hlength : ∀ d : Configs, d.keys.length = d.entries.length := fun d => List.length_map _
  have hmem := AList.mem_keys.mp h
  have hpos := List.length_pos_of_mem hmem
  rw [← hlength, ← hlength, AList.keys_erase, List.length_erase_of_mem hmem]
  omega

/-- Every step of the script uses up one, also where a command fails. -/
theorem script_step {fw : Firmware} {l : PhoneStep} (hs : s.RunsOn fw) (hl : isScript l = true)
    (h : s.step l = some t) : t.RunsOn fw ∧ t.stepsLeft < s.stepsLeft := by
  obtain ⟨stage, hstage⟩ := hs
  cases l with
  | boot fw => cases hl
  | interrupt written => cases hl
  | remove path =>
    dsimp only [step] at h
    split at h
    · rename_i fw' hscript
      obtain ⟨⟨hmem, -⟩, hremove⟩ := Option.ite_none_right_eq_some.mp h
      obtain rfl := Option.some.inj hremove
      refine ⟨⟨stage, hstage⟩, ?_⟩
      have hlength := length_entries_erase hmem
      rw [stepsLeft, stepsLeft, hscript]
      dsimp only
      omega
    · cases h
  | cleared =>
    dsimp only [step] at h
    split at h
    · rename_i fw' hscript
      obtain rfl := Option.some.inj h
      rw [hscript] at hstage
      cases hstage
      refine ⟨⟨_, rfl⟩, ?_⟩
      rw [stepsLeft, stepsLeft, hscript]
      dsimp only
      omega
    · cases h
  | copy | failCopy =>
    dsimp only [step] at h
    split at h
    · rename_i fw' file rest hscript
      obtain rfl := Option.some.inj h
      rw [hscript] at hstage
      cases hstage
      refine ⟨⟨_, rfl⟩, ?_⟩
      rw [stepsLeft, stepsLeft, hscript]
      exact Nat.lt_succ_self _
    · cases h
  | setprop =>
    dsimp only [step] at h
    split at h
    · rename_i fw' hscript
      obtain rfl := Option.some.inj h
      rw [hscript] at hstage
      cases hstage
      refine ⟨⟨_, rfl⟩, ?_⟩
      rw [stepsLeft, stepsLeft, hscript]
      exact Nat.zero_lt_one
    · cases h

/-- Until it is through, the script can move, and without failing. -/
theorem exists_script (released : Firmware → Prop) {fw : Firmware} (hs : s.RunsOn fw)
    (hne : ¬ s.script = some (fw, .completed)) :
    ∃ l t, (isScript l = true ∧ s.Orderly released l) ∧ s.step l = some t := by
  obtain ⟨stage, hscript⟩ := hs
  cases stage with
  | clearing =>
    by_cases hleft : ∀ path ∈ s.modem_config, globbed path = false
    · refine ⟨.cleared, { s with script := some (fw, .copying fw.files) }, ⟨rfl, hleft⟩, ?_⟩
      rw [step, hscript]
    · obtain ⟨path, hpath⟩ := not_forall.mp hleft
      obtain ⟨hmem, hglob⟩ := Classical.not_imp.mp hpath
      refine ⟨.remove path, { s with modem_config := s.modem_config.erase path },
        ⟨rfl, trivial⟩, ?_⟩
      rw [step, hscript]
      exact if_pos ⟨hmem, eq_true_of_ne_false hglob⟩
  | copying rest =>
    cases rest with
    | nil =>
      refine ⟨.setprop, { s with script := some (fw, .completed) }, ⟨rfl, trivial⟩, ?_⟩
      rw [step, hscript]
    | cons file rest =>
      refine ⟨.copy, { s with
        modem_config := s.modem_config.insert file.1 file.2
        script := some (fw, .copying rest) }, ⟨rfl, trivial⟩, ?_⟩
      rw [step, hscript]
  | completed => exact absurd hscript hne

/-- **The radio gets the configuration of its firmware.**  Over boots with any releases, each
cut short anywhere or not at all, such that after a cut while files were removed no release
boots whose version still stands there, and such that no `rm` and no `cp` fails: a script that
is not cut short comes through, after `stepsLeft` steps at most, and does so even where a
command fails; where none fails, each file of the configuration of the firmware it runs on is
then there as it is in the firmware, but for those with a dot in front, and there is no other
file but the version and `mbn_ota.txt`; and there is such a run. -/
theorem comes_through (hversioned : Versioned released)
    (h : machine.ReachableBy (Orderly released) s) {fw : Firmware} {stage : Stage}
    (hscript : s.script = some (fw, stage)) :
    (∀ ls t, (∀ l ∈ ls, isScript l = true) → machine.exec s ls = some t →
      ls.length ≤ s.stepsLeft ∧
      ((∀ l r, isScript l = true → machine.step t l ≠ some r) →
        t.script = some (fw, .completed)) ∧
      (machine.Along (Orderly released) s ls → t.script = some (fw, .completed) →
        ∀ path, path ≠ VER_INFO → path ≠ MBN_OTA → t.modem_config.lookup path =
          if globbed path then fw.configs.lookup path else none)) ∧
    ∃ ls t, (∀ l ∈ ls, isScript l = true) ∧ machine.Along (Orderly released) s ls ∧
      machine.exec s ls = some t ∧ t.script = some (fw, .completed) := by
  have hplain : ∀ {t}, machine.ReachableBy (Orderly released) t → t.Plain := fun ht =>
    ht.invariant (fun _ => plain_init) fun _ _ _ hs _ hstep => plain_step hs hstep
  have hinv : ∀ {t}, machine.ReachableBy (Orderly released) t → t.Invariant released := by
    intro t ht
    induction ht with
    | init hinit => exact invariant_init hversioned hinit
    | step hr hok hstep ih => exact invariant_step hversioned ih (hplain hr) hok hstep
  have hlowers : ∀ (p : Phone → PhoneStep → Prop), (∀ r l, p r l → isScript l = true) →
      ∀ r l r', r.RunsOn fw → p r l → machine.step r l = some r' →
        r'.RunsOn fw ∧ r'.stepsLeft < r.stepsLeft :=
    fun _ hp _ _ _ hr hl hstep => script_step hr (hp _ _ hl) hstep
  have henabled : ∀ r, r.RunsOn fw → ¬ r.script = some (fw, .completed) →
      ∃ l r', (isScript l = true ∧ r.Orderly released l) ∧ machine.step r l = some r' :=
    fun _ hr hne => exists_script released hr hne
  refine ⟨fun ls t hls hrun => ?_, ?_⟩
  · obtain ⟨ht, hle⟩ := StepMachine.exec_length_le (hlowers (fun _ l => isScript l = true)
      fun _ _ h => h) ⟨stage, hscript⟩ ((StepMachine.along_iff_forall hrun).mpr hls) hrun
    refine ⟨by omega, fun hstuck => ?_, fun halong hthrough path hver hmbn => ?_⟩
    · apply Classical.byContradiction
      intro hne
      obtain ⟨l, r, hl, hstep⟩ := henabled t ht hne
      exact hstuck l r hl.1 hstep
    · have hinstalled := hinv (h.exec hrun halong)
      rw [Invariant, hthrough] at hinstalled
      exact (hinstalled.2.2 path hver hmbn).trans (lookup_restrict _ _ _)
  · obtain ⟨ls, t, halong, hrun, -, hthrough⟩ := StepMachine.exists_exec_settled
      (hlowers (fun r l => isScript l = true ∧ r.Orderly released l) fun _ _ h => h.1) henabled
      ⟨stage, hscript⟩
    exact ⟨ls, t, (StepMachine.along_iff_forall hrun).mp (halong.imp fun _ _ hl => hl.1),
      halong.imp fun _ _ hl => hl.2, hrun, hthrough⟩

/-- A small release: one file of configuration, one that is not copied, and a version of one
character. -/
def release (content version : Char) : Firmware where
  configs := (AList.singleton "mcfg_sw" [content]).insert ".list" []
  ver_info := some [version]
  mbn_ota := none
  outside := by
    intro file hfile
    rcases List.mem_cons.mp hfile with rfl | hfile
    · exact ⟨show ".list" ≠ VER_INFO by decide, show ".list" ≠ MBN_OTA by decide⟩
    · rw [List.mem_singleton.mp hfile]
      exact ⟨show "mcfg_sw" ≠ VER_INFO by decide, show "mcfg_sw" ≠ MBN_OTA by decide⟩

theorem versioned_release :
    Versioned fun fw => fw = release 'a' '1' ∨ fw = release 'b' '2' where
  nonempty := by
    rintro fw (rfl | rfl) - <;> decide
  distinct := by
    rintro fw other text n hfw hother htext - hversion
    cases n with
    | zero =>
      rw [List.take_zero] at hversion
      rcases hother with rfl | rfl <;> exact absurd hversion (by decide)
    | succ n =>
      rcases hfw with rfl | rfl <;> rcases hother with rfl | rfl <;> cases htext
      · rfl
      · rw [List.take_succ_cons, List.take_nil] at hversion
        exact absurd hversion (by decide)
      · rw [List.take_succ_cons, List.take_nil] at hversion
        exact absurd hversion (by decide)
      · rfl

/-- A copy is cut short as it begins to write the version; the next boot starts over. -/
theorem comes_through_again : ∃ (s t : Phone) (ls : List PhoneStep),
    s.modem_config.lookup VER_INFO = some [] ∧ machine.exec s ls = some t ∧ ls.length ≤ 6 ∧
    ∀ path, path ≠ VER_INFO → path ≠ MBN_OTA → t.modem_config.lookup path =
      if globbed path then (release 'b' '2').configs.lookup path else none := by
  have hinit : machine.init ⟨∅, none, false⟩ := ⟨rfl, rfl, rfl⟩
  have hboot : machine.ReachableBy
      (Orderly fun fw => fw = release 'a' '1' ∨ fw = release 'b' '2')
      ⟨∅, some (release 'b' '2', .clearing), false⟩ :=
    .step (l := .boot (release 'b' '2')) (.init hinit) ⟨Or.inr rfl, nofun⟩ rfl
  have hcleared : machine.ReachableBy
      (Orderly fun fw => fw = release 'a' '1' ∨ fw = release 'b' '2')
      ⟨∅, some (release 'b' '2', .copying [⟨"mcfg_sw", ['b']⟩, ⟨VER_INFO, ['2']⟩]), false⟩ :=
    .step (l := .cleared) hboot (fun path hpath => absurd hpath (AList.notMem_empty path)) rfl
  have hcopy : machine.ReachableBy
      (Orderly fun fw => fw = release 'a' '1' ∨ fw = release 'b' '2')
      ⟨.singleton "mcfg_sw" ['b'], some (release 'b' '2', .copying [⟨VER_INFO, ['2']⟩]), false⟩ :=
    .step (l := .copy) hcleared trivial rfl
  have hagain : machine.ReachableBy
      (Orderly fun fw => fw = release 'a' '1' ∨ fw = release 'b' '2')
      ⟨(AList.singleton "mcfg_sw" ['b']).insert VER_INFO [],
        some (release 'b' '2', .clearing), false⟩ :=
    .step (l := .boot (release 'b' '2'))
      (.step (l := .interrupt (some 0)) hcopy trivial rfl) ⟨Or.inr rfl, nofun⟩ rfl
  obtain ⟨hthrough, ls, t, hls, halong, hrun, hcompleted⟩ :=
    comes_through versioned_release hagain rfl
  obtain ⟨hlength, -, hinstalled⟩ := hthrough ls t hls hrun
  exact ⟨_, t, ls, rfl, hrun, hlength, hinstalled halong hcompleted⟩

end Phone
end ModemConfig
