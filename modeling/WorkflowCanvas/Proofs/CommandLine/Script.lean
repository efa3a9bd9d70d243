import WorkflowCanvas.CommandLine.Program

/-! What scripts do on a disk in memory, by how they are put together. -/
namespace WorkflowCanvas.Script
variable {α β : Type} {server : Request → Reply} {d : Disk} {s : Script α} {f : α → Script β}
  {lines later : List String} {result : Except Failure β}

theorem exitCode_eq_zero_iff (result : Except Failure Unit) :
    exitCode result = 0 ↔ result = .ok () := by
  cases result <;> simp [exitCode]

theorem exitCode_eq_one {result : Except Failure Unit} (h : exitCode result ≠ 0) :
    exitCode result = 1 := by
  cases result with
  | ok a => exact absurd rfl h
  | error e => rfl

/-- What a script and the one that goes on with its value leave together. -/
def Outcome.andThen (o : Outcome α) (next : Disk → α → Outcome β) : Outcome β :=
  match o.result with
  | .ok a =>
    let o' := next o.disk a
    { o' with printed := o.printed ++ o'.printed }
  | .error e => ⟨o.disk, o.printed, .error e⟩

/-- Scripts are carried out one after the other, up to the first that fails. -/
theorem onDisk_bind (s : Script α) (f : α → Script β) (d : Disk) :
    onDisk server d (s >>= f) = (onDisk server d s).andThen fun d a => onDisk server d (f a) := by
  change onDisk server d (s.bind f) = _
  induction s generalizing d with
  | done a => rfl
  | fail e => rfl
  | print line next ih =>
    simp only [Script.bind, onDisk, ih, Outcome.andThen]
    split <;> rfl
  | wait millis next ih => exact ih d
  | read path next ih => exact ih _ d
  | write path text next ih =>
    simp only [Script.bind, onDisk]
    cases d.write path text with
    | ok d' => exact ih _ d'
    | error e => exact ih _ d
  | makeDirs path next ih =>
    simp only [Script.bind, onDisk]
    cases d.makeDirs path with
    | ok d' => exact ih _ d'
    | error e => exact ih _ d
  | send request next ih => exact ih _ d

/-- A script that leaves the disk as it is prints the given lines and has the given result. -/
def Shows (server : Request → Reply) (d : Disk) (s : Script α) (lines : List String)
    (result : Except Failure α) : Prop := onDisk server d s = ⟨d, lines, result⟩

namespace Shows

theorem done (a : α) : Shows server d (.done a) [] (.ok a) := rfl

theorem fail (e : Failure) : Shows server d (.fail e : Script α) [] (.error e) := rfl

theorem bind {a : α} (h : Shows server d s lines (.ok a)) (hf : Shows server d (f a) later result) :
    Shows server d (s >>= f) (lines ++ later) result := by
  unfold Shows at *
  simp only [onDisk_bind, h, Outcome.andThen, hf]

theorem silent {a : α} (h : Shows server d s [] (.ok a)) (hf : Shows server d (f a) later result) :
    Shows server d (s >>= f) later result := h.bind hf

theorem last {a : α} (h : Shows server d s lines (.ok a)) (hf : Shows server d (f a) [] result) :
    Shows server d (s >>= f) lines result := by
  simpa using h.bind hf

theorem bind_error {e : Failure} (h : Shows server d s lines (.error e)) :
    Shows server d (s >>= f) lines (.error e) := by
  unfold Shows at *
  simp only [onDisk_bind, h, Outcome.andThen]

theorem say (line : String) : Shows server d (say line) [line] (.ok ()) := rfl

theorem sayAll (lines : List String) : Shows server d (sayAll lines) lines (.ok ()) := by
  unfold Script.sayAll
  induction lines with
  | nil => exact done ()
  | cons line lines ih => exact (say line).bind ih

theorem ofExcept_ok {ε : Type} {report : ε → Failure} {x : Except ε α} {a : α} (h : x = .ok a) :
    Shows server d (ofExcept report x) [] (.ok a) := h ▸ done a

theorem ofExcept_error {ε : Type} {report : ε → Failure} {x : Except ε α} {e : ε}
    (h : x = .error e) : Shows server d (ofExcept report x) [] (.error (report e)) := h ▸ fail _

theorem readFile_ok {path text : String} (h : d.read path = .ok text) :
    Shows server d (readFile path) [] (.ok text) := by
  unfold Shows Script.readFile
  rw [onDisk, h]
  rfl

theorem readFile_error {path : String} {e : DiskFault} (h : d.read path = .error e) :
    Shows server d (readFile path) [] (.error ⟨s!"reading {path}", [e.message]⟩) := by
  unfold Shows Script.readFile
  rw [onDisk, h]
  rfl

end Shows
end WorkflowCanvas.Script
