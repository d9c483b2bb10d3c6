import HakRobot.Handeye.Server

/-!
# The window of the calibration

`RqtHandeyeCalibration` of `rqt_easy_handeye.py` as the only client of `HandeyeServer`. The
window does not ask for the samples the server has when it opens, and its buttons, not
the server, decide what is computed and saved when. An exception of a service ends the
program, which is a session that is not continued, or leaves the window as it is where an
`excepthook` is installed.

* `Desk.Kept.click` — a click keeps what the enabled buttons promise;
* `saved_as_shown` — a calibration that is saved was computed from the samples the window
  shows, and a computation it starts is never refused for want of samples.
-/

namespace HakRobot.Handeye

open HakRobot.Proc

/-! ## The window -/

/-- What `outputBox` says. -/
inductive Output
  | nothing
  | notComputed
  | computed (c : Calibration)
deriving DecidableEq

/-- The widgets. A row of `sampleListWidget` is a sample; the format of its text is left
out. -/
structure Window where
  sampleListWidget : List Sample
  currentRow : ℤ
  removeButton : Bool
  computeButton : Bool
  saveButton : Bool
  outputBox : Output

/-- `__init__`. -/
def Window.init : Window := ⟨[], -1, false, false, false, .nothing⟩

/-- The window, the server and the files that were written, newest first; beside each
file is noted what the window showed. -/
structure Desk where
  window : Window
  server : Server
  files : List (Str × Calibration × List Sample)

/-- `filename`: the last part of the namespace, in the default directory. -/
def Parameters.filename (directory : Str) (p : Parameters) : Str :=
  let name := (p.namespaceName.reverse.dropWhile (· = '/')).reverse
  directory ++ '/' :: (name.splitOn '/').getLastD [] ++ ".yaml".toList

/-- `_display_sample_list`. -/
def Window.displaySampleList (w : Window) (samples : List Sample) : Window :=
  { w with
    sampleListWidget := samples
    currentRow := samples.length - 1
    removeButton := decide (0 < samples.length) }

/-- After an answer with a new list of samples. -/
def Window.resampled (w : Window) (samples : List Sample) : Window :=
  { w.displaySampleList samples with
    computeButton := decide (1 < samples.length)
    saveButton := false }

/-- What the user does; a lookup is what tf knows then. -/
inductive Click
  | take (lookup : Lookup)
  | remove
  | compute
  | save
  | algorithm (name : Str)
  | row (i : Nat)

variable (cv : Libraries) (directory : Str)

/-- `handle_take_sample`. -/
def Desk.handleTakeSample (d : Desk) (lookup : Lookup) : Desk :=
  match d.server.takeSample lookup with
  | .error _ => d
  | .ok server => { d with window := d.window.resampled server.samples, server := server }

/-- `handle_remove_sample`. The index of a request is an `int8`. -/
def Desk.handleRemoveSample (d : Desk) : Desk :=
  if -128 ≤ d.window.currentRow ∧ d.window.currentRow ≤ 127 then
    let server := d.server.removeSample d.window.currentRow
    { d with window := d.window.resampled server.samples, server := server }
  else d

/-- `handle_compute_calibration`. -/
def Desk.handleComputeCalibration (d : Desk) : Desk :=
  match d.server.computeCalibration openCV cv with
  | .error _ => d
  | .ok (valid, server) =>
      let window := { d.window with computeButton := false, saveButton := valid }
      { d with
        window := { window with
          outputBox := match valid, server.lastCalibration with
            | true, some c => .computed c
            | _, _ => .notComputed }
        server := server }

/-- `save_calibration` of the server. -/
def Desk.saveCalibration (d : Desk) : Desk :=
  match d.server.lastCalibration with
  | none => d
  | some c =>
      { d with
        files := (c.parameters.filename directory, c, d.window.sampleListWidget) :: d.files }

/-- `handle_save_calibration`. -/
def Desk.handleSaveCalibration (d : Desk) : Desk :=
  let d := d.saveCalibration directory
  { d with window := { d.window with saveButton := false } }

/-- A click, where there is something to click on. The combo box has the algorithms of
the server's list. -/
def Desk.click (d : Desk) : Click → Option Desk
  | .take lookup => some (d.handleTakeSample lookup)
  | .remove => if d.window.removeButton then some d.handleRemoveSample else none
  | .compute => if d.window.computeButton then some (d.handleComputeCalibration cv) else none
  | .save => if d.window.saveButton then some (d.handleSaveCalibration directory) else none
  | .algorithm name =>
      if openCV.listed.contains name then
        some { d with server := (d.server.setAlgorithm openCV name).2 }
      else none
  | .row i =>
      if i < d.window.sampleListWidget.length then
        some { d with window := { d.window with currentRow := i } }
      else none

/-! ## What the buttons promise -/

variable {cv directory} {p : Parameters} {d d' : Desk}

/-- A calibration of the samples by an available algorithm. -/
def CalibrationOf (cv : Libraries) (p : Parameters) (samples : List Sample)
    (c : Calibration) : Prop :=
  ∃ alg ∈ availableAlgorithms, ComputedFrom cv p alg samples c

/-- What holds between two clicks. -/
structure Desk.Kept (cv : Libraries) (directory : Str) (p : Parameters) (d : Desk) :
    Prop where
  parameters : d.server.parameters = p
  algorithm : d.server.calibrationAlgorithm ∈ openCV.listed
  remove : d.window.removeButton = true → d.window.sampleListWidget = d.server.samples ∧
    0 ≤ d.window.currentRow ∧ d.window.currentRow < d.server.samples.length
  compute : d.window.computeButton = true → d.window.sampleListWidget = d.server.samples ∧
    2 ≤ d.server.samples.length
  save : d.window.saveButton = true → d.window.sampleListWidget = d.server.samples ∧
    ∃ c, d.server.lastCalibration = some c ∧ CalibrationOf cv p d.server.samples c
  output : d.window.outputBox ≠ .notComputed
  files : ∀ file ∈ d.files, file.1 = p.filename directory ∧
    CalibrationOf cv p file.2.2 file.2.1

/-- A new list of samples is shown, and nothing of an older one can be saved. -/
theorem Desk.Kept.resampled (h : d.Kept cv directory p) (server : Server)
    (hparameters : server.parameters = p) (halg : server.calibrationAlgorithm ∈ openCV.listed) :
    Desk.Kept cv directory p
      { d with window := d.window.resampled server.samples, server := server } where
  parameters := hparameters
  algorithm := halg
  remove hbtn := by
    have hpos : 0 < server.samples.length := of_decide_eq_true hbtn
    refine ⟨rfl, ?_, ?_⟩
    · show (0 : ℤ) ≤ server.samples.length - 1
      omega
    · show (server.samples.length : ℤ) - 1 < server.samples.length
      omega
  compute hbtn := ⟨rfl, of_decide_eq_true hbtn⟩
  save hbtn := by cases hbtn
  output := h.output
  files := h.files

theorem Desk.Kept.take (h : d.Kept cv directory p) (lookup : Lookup) :
    (d.handleTakeSample lookup).Kept cv directory p := by
  unfold handleTakeSample Server.takeSample
  cases getTransforms d.server.parameters lookup with
  | error e => exact h
  | ok sample =>
      have hnew := h.resampled { d.server with samples := d.server.samples ++ [sample] }
      exact hnew h.parameters h.algorithm

theorem Desk.Kept.removed (h : d.Kept cv directory p) :
    d.handleRemoveSample.Kept cv directory p := by
  unfold handleRemoveSample
  split
  · refine h.resampled _ ?_ ?_
    · unfold Server.removeSample
      split
      · exact h.parameters
      · exact h.parameters
    · unfold Server.removeSample
      split
      · exact h.algorithm
      · exact h.algorithm
  · exact h

theorem Desk.Kept.computed (h : d.Kept cv directory p) (hbtn : d.window.computeButton = true) :
    (d.handleComputeCalibration cv).Kept cv directory p := by
  obtain ⟨hshown, hmany⟩ := h.compute hbtn
  unfold handleComputeCalibration
  rcases Server.computeCalibration_cases cv h.algorithm with
    ⟨hfew, -⟩ | ⟨_, -, -, hresult⟩ | ⟨bckname, algs, algname, c, htable, halg, hc, hresult⟩
  · omega
  · rw [hresult]
    exact h
  · rw [hresult]
    rw [h.parameters] at hc
    rw [mem_openCV htable] at halg
    refine ⟨h.parameters, h.algorithm, h.remove, fun hbtn => (by cases hbtn), fun _ => ?_, ?_,
      h.files⟩
    · exact ⟨hshown, c, rfl, algname, halg, hc⟩
    · show Output.computed c ≠ .notComputed
      simp

theorem Desk.Kept.saved (h : d.Kept cv directory p) (hbtn : d.window.saveButton = true) :
    (d.handleSaveCalibration directory).Kept cv directory p := by
  obtain ⟨hshown, c, hlast, alg, halg, hc⟩ := h.save hbtn
  unfold handleSaveCalibration saveCalibration
  rw [hlast]
  refine ⟨h.parameters, h.algorithm, h.remove, h.compute, fun hbtn => (by cases hbtn),
    h.output, ?_⟩
  intro file hfile
  rcases List.mem_cons.mp hfile with rfl | hfile
  · have hparameters : c.parameters = p := by
      rw [hc.2.1]
      rfl
    refine ⟨congrArg (Parameters.filename directory) hparameters, alg, halg, ?_⟩
    show ComputedFrom cv p alg d.window.sampleListWidget c
    rw [hshown]
    exact hc
  · exact h.files file hfile

/-- **Step of the window.** -/
theorem Desk.Kept.click (h : d.Kept cv directory p) {click : Click}
    (hstep : d.click cv directory click = some d') : d'.Kept cv directory p := by
  unfold Desk.click at hstep
  cases click with
  | take lookup =>
      obtain rfl := Option.some.inj hstep
      exact h.take lookup
  | remove =>
      obtain ⟨hbtn, rfl⟩ : d.window.removeButton = true ∧ d.handleRemoveSample = d' := by
        simpa using hstep
      exact h.removed
  | compute =>
      obtain ⟨hbtn, rfl⟩ : d.window.computeButton = true ∧ d.handleComputeCalibration cv = d' := by
        simpa using hstep
      exact h.computed hbtn
  | save =>
      obtain ⟨hbtn, rfl⟩ :
          d.window.saveButton = true ∧ d.handleSaveCalibration directory = d' := by
        simpa using hstep
      exact h.saved hbtn
  | algorithm name =>
      obtain ⟨hname, rfl⟩ : name ∈ openCV.listed ∧
          { d with server := (d.server.setAlgorithm openCV name).2 } = d' := by
        simpa using hstep
      have haccepts := Backends.accepts_iff.mpr hname
      unfold Server.setAlgorithm
      rw [if_pos haccepts]
      exact ⟨h.parameters, hname, h.remove, h.compute, h.save, h.output, h.files⟩
  | row i =>
      obtain ⟨hi, rfl⟩ : i < d.window.sampleListWidget.length ∧
          { d with window := { d.window with currentRow := i } } = d' := by
        simpa using hstep
      refine ⟨h.parameters, h.algorithm, fun hbtn => ?_, h.compute, h.save, h.output, h.files⟩
      obtain ⟨hshown, -, -⟩ := h.remove hbtn
      refine ⟨hshown, Int.natCast_nonneg i, ?_⟩
      show (i : ℤ) < d.server.samples.length
      rw [← hshown]
      omega

/-- A window that has just opened. -/
theorem kept_init {server : Server} (h : server.Sound openCV cv p) :
    Desk.Kept cv directory p ⟨.init, server, []⟩ :=
  ⟨h.parameters, h.algorithm, fun hbtn => (by cases hbtn), fun hbtn => (by cases hbtn),
    fun hbtn => (by cases hbtn), by simp [Window.init],
    fun _ hfile => absurd hfile List.not_mem_nil⟩

variable {server : Server}

/-- **Saved as shown.** A window opens on a server that has served any requests. Whatever
is then clicked, and whatever tf and the libraries answer: each file that is saved has the
calibration's one name, and is what OpenCV computes, with an available algorithm, from at
least two samples, which are those the window showed; the window never says that a
calibration could not be computed; and a sample that is removed is the one of the selected
row, if the row's number fits the request. -/
theorem saved_as_shown (hserver : Reach (serverStep cv) (fun _ _ => True) (.init p) server)
    (h : Reach (fun d click => d.click cv directory click) (fun _ _ => True)
      ⟨.init, server, []⟩ d) :
    (∀ file ∈ d.files, file.1 = p.filename directory ∧ CalibrationOf cv p file.2.2 file.2.1) ∧
    d.window.outputBox ≠ .notComputed ∧
    ∀ d', d.click cv directory .remove = some d' → d.window.currentRow ≤ 127 →
      d'.server.samples = d.window.sampleListWidget.eraseIdx d.window.currentRow.toNat := by
  have hkept := h.invariant (kept_init (sound_of_reach hserver))
    fun _ _ _ hd _ hstep => hd.click hstep
  refine ⟨hkept.files, hkept.output, fun d' hstep hrow => ?_⟩
  obtain ⟨hbtn, rfl⟩ : d.window.removeButton = true ∧ d.handleRemoveSample = d' := by
    simpa [Desk.click] using hstep
  obtain ⟨hshown, hlow, hhigh⟩ := hkept.remove hbtn
  unfold Desk.handleRemoveSample
  rw [if_pos ⟨by omega, hrow⟩]
  show (d.server.removeSample d.window.currentRow).samples = _
  unfold Server.removeSample
  rw [if_pos ⟨hlow, hhigh⟩, hshown]

/-! ## A session -/

/-- A sample is added to the three the server has, and the calibration is computed and
saved. -/
def savedSession : Desk :=
  follow (fun d click => d.click sameFrame [] click) ⟨.init, parkRun, []⟩
    [.take (turned ⟨0, 0, 3 / 5, 4 / 5⟩), .compute, .save]

/-- `saved_as_shown` for this session. -/
theorem saved_as_shown_park :
    savedSession.files.map (fun file => (String.ofList file.1, file.2.2.length)) =
      [("/hak.yaml", 4)] ∧
    ∀ file ∈ savedSession.files, CalibrationOf sameFrame eyeInHand file.2.2 file.2.1 := by
  have hsession : Reach (fun d click => d.click sameFrame [] click) (fun _ _ => True)
      ⟨.init, parkRun, []⟩ savedSession := follow_reach (meets_true _ _)
  refine ⟨by decide +kernel, fun file hfile => ?_⟩
  exact ((saved_as_shown (follow_reach (meets_true _ _)) hsession).1 file hfile).2

end HakRobot.Handeye
