import Sm8150Common.HandleRouting
import Sm8150Common.Library.Words

/-! # Sub-HALs from the configuration files

The proxy reads the names of the sub-HAL libraries from two files, looks each library up in
three locations and takes the sub-HAL it offers (`HalProxy.cpp`, lines 86–93, 440–488 and
515–534).  The position in the resulting list is the index every handle carries.

`sensors_of_config` leads from the texts of the files to the handles of the static table:
spacing does not matter, a library that is not found or of another version takes no index,
and the vendor's file comes first. -/
namespace SensorsHal

/-- A library, by the two functions it may export: the sub-HAL each returns, and the version
it stores. -/
structure SharedObject where
  sensorsHalGetSubHal : Option (SubHal × UInt32)
  sensorsHalGetSubHal_2_1 : Option (SubHal × UInt32)

/-- The two versions the proxy knows, the libraries that can be opened, and the files. -/
structure Device where
  SUB_HAL_2_0_VERSION : UInt32
  SUB_HAL_2_1_VERSION : UInt32
  dlopen : String → Option SharedObject
  file : String → Option String

/-- With the directories of a 64-bit build. -/
def kSubHalShareObjectLocations : List String := ["", "/vendor/lib64/hw/", "/odm/lib64/hw/"]

def kMultiHalConfigFiles : List String :=
  ["/vendor/etc/sensors/hals.conf", "/odm/etc/sensors/hals.conf"]

namespace Device
variable (d : Device)

def getHandleForSubHalSharedObject (filename : String) : Option SharedObject :=
  kSubHalShareObjectLocations.findSome? fun dir => d.dlopen (dir ++ filename)

/-- The body of the loop, lines 447–485.  The second function is looked up only when there is
no first one. -/
def loadSubHal (mSubHalList : List SubHal) (subHalLibraryFile : String) : List SubHal :=
  match d.getHandleForSubHalSharedObject subHalLibraryFile with
  | none => mSubHalList
  | some handle =>
    match handle.sensorsHalGetSubHal with
    | some (subHal, version) =>
      if version ≠ d.SUB_HAL_2_0_VERSION then mSubHalList else mSubHalList ++ [subHal]
    | none =>
      match handle.sensorsHalGetSubHal_2_1 with
      | none => mSubHalList
      | some (subHal, version) =>
        if version ≠ d.SUB_HAL_2_1_VERSION then mSubHalList else mSubHalList ++ [subHal]

def initializeSubHalListFromConfigFile (mSubHalList : List SubHal) (configFileName : String) :
    List SubHal :=
  match d.file configFileName with
  | none => mSubHalList
  | some text => InputStream.whileWord d.loadSubHal (.ofString text) "" mSubHalList

/-- The constructor without arguments. -/
def halProxy : HalProxy :=
  HalProxy.construct (kMultiHalConfigFiles.foldl d.initializeSubHalListFromConfigFile [])

/-! ## What the files ask for -/

/-- A file that cannot be opened lists nothing. -/
def FileLists (configFile : String) (names : List String) : Prop :=
  match d.file configFile with
  | none => names = []
  | some text => InputStream.Lists text.toList names

/-- The names in both files. -/
def Configures (names : List String) : Prop :=
  ∃ vendor odm, d.FileLists "/vendor/etc/sensors/hals.conf" vendor ∧
    d.FileLists "/odm/etc/sensors/hals.conf" odm ∧ names = vendor ++ odm

/-- The first library that is found under the name is a sub-HAL of a known version.  One that
exports both functions is judged by the first. -/
def Offers (name : String) (subHal : SubHal) : Prop :=
  ∃ before dir after object, kSubHalShareObjectLocations = before ++ dir :: after ∧
    (∀ other ∈ before, d.dlopen (other ++ name) = none) ∧
    d.dlopen (dir ++ name) = some object ∧
    (object.sensorsHalGetSubHal = some (subHal, d.SUB_HAL_2_0_VERSION) ∨
      object.sensorsHalGetSubHal = none ∧
        object.sensorsHalGetSubHal_2_1 = some (subHal, d.SUB_HAL_2_1_VERSION))

/-- The sub-HAL of one name. -/
def offered (name : String) : Option SubHal := (d.loadSubHal [] name).head?

variable {d}

theorem getHandle_eq_some {filename : String} {object : SharedObject} :
    d.getHandleForSubHalSharedObject filename = some object ↔
      ∃ before dir after, kSubHalShareObjectLocations = before ++ dir :: after ∧
        (∀ other ∈ before, d.dlopen (other ++ filename) = none) ∧
        d.dlopen (dir ++ filename) = some object := by
  rw [getHandleForSubHalSharedObject, List.findSome?_eq_some_iff]
  constructor
  · rintro ⟨before, dir, after, hsplit, hfound, hnone⟩
    exact ⟨before, dir, after, hsplit, hnone, hfound⟩
  · rintro ⟨before, dir, after, hsplit, hnone, hfound⟩
    exact ⟨before, dir, after, hsplit, hfound, hnone⟩

/-- One round of the loop appends what the name offers. -/
theorem loadSubHal_eq (mSubHalList : List SubHal) (name : String) :
    d.loadSubHal mSubHalList name = mSubHalList ++ (d.offered name).toList := by
  unfold offered loadSubHal
  split
  · simp
  · split
    · split <;> simp
    · split
      · simp
      · split <;> simp

theorem offered_eq_some {name : String} {subHal : SubHal} :
    d.offered name = some subHal ↔ d.Offers name subHal := by
  -- a sub-HAL of another version is not taken
  have hversion : ∀ (got : SubHal × UInt32) (version : UInt32),
      (if got.2 ≠ version then ([] : List SubHal) else [] ++ [got.1]).head? = some subHal ↔
        got = (subHal, version) := by
    rintro ⟨other, v⟩ version
    by_cases hv : v = version
    · simp [hv]
    · simp [hv]
  have hhandle : d.offered name = some subHal ↔
      ∃ object, d.getHandleForSubHalSharedObject name = some object ∧
        (object.sensorsHalGetSubHal = some (subHal, d.SUB_HAL_2_0_VERSION) ∨
          object.sensorsHalGetSubHal = none ∧
            object.sensorsHalGetSubHal_2_1 = some (subHal, d.SUB_HAL_2_1_VERSION)) := by
    unfold offered loadSubHal
    cases d.getHandleForSubHalSharedObject name with
    | none => simp
    | some object =>
      obtain ⟨_ | got, got'⟩ := object
      · cases got' with
        | none => simp
        | some got' => simpa using hversion got' d.SUB_HAL_2_1_VERSION
      · simpa using hversion got d.SUB_HAL_2_0_VERSION
  rw [hhandle]
  constructor
  · rintro ⟨object, hfound, hoffer⟩
    obtain ⟨before, dir, after, hsplit, hnone, hopen⟩ := getHandle_eq_some.mp hfound
    exact ⟨before, dir, after, object, hsplit, hnone, hopen, hoffer⟩
  · rintro ⟨before, dir, after, object, hsplit, hnone, hopen, hoffer⟩
    exact ⟨object, getHandle_eq_some.mpr ⟨before, dir, after, hsplit, hnone, hopen⟩, hoffer⟩

/-! ## The list of sub-HALs -/

theorem foldl_loadSubHal (names : List String) (mSubHalList : List SubHal) :
    names.foldl d.loadSubHal mSubHalList = mSubHalList ++ names.filterMap d.offered := by
  induction names generalizing mSubHalList with
  | nil => simp
  | cons name names ih =>
    rw [List.foldl_cons, ih, loadSubHal_eq, List.append_assoc]
    cases h : d.offered name with
    | none => simp [h]
    | some subHal => simp [h]

theorem initializeSubHalListFromConfigFile_eq {configFile : String} {names : List String}
    (h : d.FileLists configFile names) (mSubHalList : List SubHal) :
    d.initializeSubHalListFromConfigFile mSubHalList configFile =
      mSubHalList ++ names.filterMap d.offered := by
  unfold FileLists at h
  unfold initializeSubHalListFromConfigFile
  cases hfile : d.file configFile with
  | none =>
    rw [hfile] at h
    dsimp only at h ⊢
    rw [h]
    simp
  | some text =>
    rw [hfile] at h
    dsimp only at h ⊢
    rw [InputStream.whileWord_of_lists d.loadSubHal rfl h, foldl_loadSubHal]

theorem exists_fileLists (configFile : String) : ∃ names, d.FileLists configFile names := by
  unfold FileLists
  cases d.file configFile with
  | none => exact ⟨[], rfl⟩
  | some text => exact InputStream.exists_lists text.toList

theorem FileLists.unique {configFile : String} {names names' : List String}
    (h : d.FileLists configFile names) (h' : d.FileLists configFile names') : names = names' := by
  unfold FileLists at h h'
  cases hfile : d.file configFile with
  | none =>
    rw [hfile] at h h'
    exact h.trans h'.symm
  | some text =>
    rw [hfile] at h h'
    exact InputStream.Lists.unique h h'

theorem mSubHalList_eq {names : List String} (h : d.Configures names) :
    d.halProxy.mSubHalList = names.filterMap d.offered := by
  obtain ⟨vendor, odm, hvendor, hodm, rfl⟩ := h
  show d.initializeSubHalListFromConfigFile (d.initializeSubHalListFromConfigFile [] _) _ = _
  rw [initializeSubHalListFromConfigFile_eq hvendor, initializeSubHalListFromConfigFile_eq hodm,
    List.nil_append, List.filterMap_append]

/-- Which name an element of the list comes from: its position counts the names before that
offer a sub-HAL. -/
theorem getElem?_filterMap {α β : Type} {f : α → Option β} {l : List α} {i : Nat} {b : β} :
    (l.filterMap f)[i]? = some b ↔ ∃ before a after, l = before ++ a :: after ∧ f a = some b ∧
      i = (before.filterMap f).length := by
  constructor
  · intro h
    obtain ⟨hlt, hb⟩ := List.getElem?_eq_some_iff.mp h
    have hsplit := List.take_append_drop i (l.filterMap f)
    rw [List.drop_eq_getElem_cons hlt, hb] at hsplit
    obtain ⟨l₁, l₂, hl, hbefore, hafter⟩ := List.filterMap_eq_append_iff.mp hsplit.symm
    obtain ⟨skipped, a, after, hl₂, hnone, ha, -⟩ := List.filterMap_eq_cons_iff.mp hafter
    refine ⟨l₁ ++ skipped, a, after, by rw [hl, hl₂, List.append_assoc], ha, ?_⟩
    have hskipped : skipped.filterMap f = [] := List.filterMap_eq_nil_iff.mpr hnone
    rw [List.filterMap_append, hbefore, hskipped, List.append_nil, List.length_take]
    omega
  · rintro ⟨before, a, after, rfl, ha, rfl⟩
    rw [List.filterMap_append, List.filterMap_cons_some ha,
      List.getElem?_append_right (Nat.le_refl _), Nat.sub_self]
    rfl

/-- **From the files to the handles.**  The two files list one sequence of names.  The
sub-HALs of the proxy are what these names offer, in this order; and the keys of the static
table are the handles these sub-HALs report with a clear index byte, each encoded with the
number of names before its own that offer a sub-HAL. -/
theorem sensors_of_config (d : Device) : ∃ names, d.Configures names ∧
    (∀ other, d.Configures other → other = names) ∧
    ∃ offered : String → Option SubHal,
      (∀ name subHal, offered name = some subHal ↔ d.Offers name subHal) ∧
      d.halProxy.mSubHalList = names.filterMap offered ∧
      ∀ k, k ∈ d.halProxy.mSensors ↔ ∃ before name after subHal,
        names = before ++ name :: after ∧ d.Offers name subHal ∧
        ∃ sensor ∈ subHal.sensors, subHalIndexIsClear sensor.sensorHandle = true ∧
          k = setSubHalIndex sensor.sensorHandle (before.filterMap offered).length := by
  obtain ⟨vendor, hvendor⟩ := d.exists_fileLists "/vendor/etc/sensors/hals.conf"
  obtain ⟨odm, hodm⟩ := d.exists_fileLists "/odm/etc/sensors/hals.conf"
  have hnames : d.Configures (vendor ++ odm) := ⟨vendor, odm, hvendor, hodm, rfl⟩
  refine ⟨vendor ++ odm, hnames, ?_, d.offered, fun _ _ => offered_eq_some,
    mSubHalList_eq hnames, ?_⟩
  · rintro other ⟨vendor', odm', hvendor', hodm', rfl⟩
    rw [hvendor'.unique hvendor, hodm'.unique hodm]
  · intro k
    show k ∈ (initializeSensorList d.halProxy.mSubHalList).mSensors ↔ _
    rw [mem_mSensors, mSubHalList_eq hnames]
    constructor
    · rintro ⟨i, h, ⟨hclear, subHal, hget, sensor, hsensor, rfl⟩, rfl⟩
      obtain ⟨before, name, after, hsplit, hoffered, rfl⟩ := getElem?_filterMap.mp hget
      exact ⟨before, name, after, subHal, hsplit, offered_eq_some.mp hoffered, sensor, hsensor,
        hclear, rfl⟩
    · rintro ⟨before, name, after, subHal, hsplit, hoffers, sensor, hsensor, hclear, rfl⟩
      exact ⟨_, _, ⟨hclear, subHal, getElem?_filterMap.mpr
        ⟨before, name, after, hsplit, offered_eq_some.mpr hoffers, rfl⟩, sensor, hsensor, rfl⟩, rfl⟩

/-- What is written one name on a line is read back. -/
theorem mSubHalList_of_lines {vendor odm : List String}
    (hvendor : ∀ name ∈ vendor, InputStream.Word name) (hodm : ∀ name ∈ odm, InputStream.Word name)
    (hvendorFile : d.file "/vendor/etc/sensors/hals.conf" =
      some (String.ofList (InputStream.lines vendor)))
    (hodmFile : d.file "/odm/etc/sensors/hals.conf" =
      some (String.ofList (InputStream.lines odm))) :
    d.halProxy.mSubHalList = (vendor ++ odm).filterMap d.offered := by
  refine mSubHalList_eq ⟨vendor, odm, ?_, ?_, rfl⟩
  · rw [FileLists, hvendorFile]
    dsimp only
    rw [String.toList_ofList]
    exact InputStream.lists_lines hvendor
  · rw [FileLists, hodmFile]
    dsimp only
    rw [String.toList_ofList]
    exact InputStream.lists_lines hodm

/-- The first library is of version 1, which the proxy does not know; the second is found in
the vendor's directory and exports the newer function. -/
def twoLibraries : Device where
  SUB_HAL_2_0_VERSION := 2
  SUB_HAL_2_1_VERSION := 3
  dlopen path :=
    if path = "old.so" then some ⟨some (⟨[]⟩, 1), none⟩
    else if path = "/vendor/lib64/hw/light.so" then
      some ⟨none, some (⟨[⟨7#32, 5, 0#32⟩]⟩, 3)⟩
    else none
  file configFile :=
    if configFile = "/vendor/etc/sensors/hals.conf" then
      some (String.ofList (InputStream.lines ["old.so", "light.so"]))
    else some (String.ofList (InputStream.lines []))

example : twoLibraries.halProxy.mSubHalList = [⟨[⟨7#32, 5, 0#32⟩]⟩] := by
  rw [@mSubHalList_of_lines twoLibraries ["old.so", "light.so"] []
    (fun name h => by
      rcases List.mem_pair.mp h with rfl | rfl
      · exact ⟨by decide, List.all_eq_true.mp (by decide)⟩
      · exact ⟨by decide, List.all_eq_true.mp (by decide)⟩)
    (fun name h => absurd h List.not_mem_nil) rfl rfl]
  decide

end Device
end SensorsHal
