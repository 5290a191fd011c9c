import SoleKey.Effect

set_option autoImplicit false

namespace SoleKey.Effect

def isLog : Effect → Bool
  | .log _ => true
  | _ => false

@[simp] theorem isLog_debug (text : String) : (debug text).isLog = true := rfl

@[simp] theorem isLog_info (text : String) : (info text).isLog = true := rfl

@[simp] theorem isLog_warn (text : String) : (warn text).isLog = true := rfl

@[simp] theorem isLog_error (text : String) : (error text).isLog = true := rfl

theorem loads_append (first second : List Effect) :
    loads (first ++ second) = loads first + loads second :=
  List.countP_append

theorem tpmCalls_append (first second : List Effect) :
    tpmCalls (first ++ second) = tpmCalls first ++ tpmCalls second :=
  List.filterMap_append

theorem logLines_append (first second : List Effect) :
    logLines (first ++ second) = logLines first ++ logLines second :=
  List.filterMap_append

theorem tpmCalls_map_tpm (calls : List TpmCall) : tpmCalls (calls.map tpm) = calls := by
  induction calls with
  | nil => rfl
  | cons call rest ih => exact congrArg (call :: ·) ih

theorem tpmCalls_map_log (lines : List LogLine) : tpmCalls (lines.map log) = [] := by
  induction lines with
  | nil => rfl
  | cons line rest ih => exact ih

theorem logLines_map_tpm (calls : List TpmCall) : logLines (calls.map tpm) = [] := by
  induction calls with
  | nil => rfl
  | cons call rest ih => exact ih

theorem logLines_map_log (lines : List LogLine) : logLines (lines.map log) = lines := by
  induction lines with
  | nil => rfl
  | cons line rest ih => exact congrArg (line :: ·) ih

theorem removedFiles_of_isLog {effects : List Effect}
    (logs : ∀ effect ∈ effects, effect.isLog = true) : removedFiles effects = [] := by
  apply List.filterMap_eq_nil_iff.2
  intro effect there
  have log := logs effect there
  cases effect <;> simp_all [isLog]

theorem unlogged_of_isLog {effects : List Effect} (logs : ∀ effect ∈ effects, effect.isLog = true) :
    effects.filter (!·.isLog) = [] := by
  simpa [List.filter_eq_nil_iff] using logs

theorem loads_unlogged (effects : List Effect) :
    loads (effects.filter (!·.isLog)) = loads effects := by
  induction effects with
  | nil => rfl
  | cons effect rest ih => cases effect <;> simp_all [loads, isLog]

theorem tpmCalls_unlogged (effects : List Effect) :
    tpmCalls (effects.filter (!·.isLog)) = tpmCalls effects := by
  induction effects with
  | nil => rfl
  | cons effect rest ih => cases effect <;> simp_all [tpmCalls, isLog]

theorem logLines_logged (effects : List Effect) :
    logLines (effects.filter isLog) = logLines effects := by
  induction effects with
  | nil => rfl
  | cons effect rest ih => cases effect <;> simp_all [logLines, isLog, List.filter_cons]

end SoleKey.Effect
