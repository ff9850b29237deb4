import CaptureDesk.Backend
import CaptureDesk.Helper

/-!
# The workplace

Where the children of one run of the program are started, one after the other: the supply that they
come from, the attempts to start one, and the files that they leave.  A workplace is the state of
the link to the backend, so that a procedure can be carried out in it.
-/

namespace CaptureDesk

/-- Where children come from: the child that some words start, and what is left of the supply. -/
abbrev Supply (σ : Type) := List Value → σ → Child × σ

/-- What the children of a run share. -/
structure Workplace (σ : Type) where
  supply : σ
  spawns : List Spawn := []
  files : Files

variable {σ α : Type}

/-- Answers requests by children of the backend.  Only a child that is asked to start is taken from
the supply. -/
def Backend.link (b : Backend) (supply : Supply σ) : Link (Workplace σ) := fun request w =>
  let (child, left) := supply (b.argv request.command) w.supply
  let e := b.invoke child w.files request
  { outcome := e.outcome
    reports := e.reports
    state :=
      { supply := if e.spawns = [] then w.supply else left
        spawns := w.spawns ++ e.spawns
        files := e.files } }

/-- Runs a helper that some words start. -/
def Workplace.help (w : Workplace σ) (supply : Supply σ) (argv : List Value)
    (run : Child → Files → HelperRun α) : HelperRun α × Workplace σ :=
  let (child, left) := supply argv w.supply
  let r := run child w.files
  (r, { supply := left, spawns := w.spawns ++ r.spawns, files := r.files })

end CaptureDesk
