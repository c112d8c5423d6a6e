import ATenBound.Runtime

/-!
# `internal/tensorlogic`: the tensor equation framework

The `Framework` of `tensorlogic.go`: a map of variables by name and a list of
equations. `Evaluate`, `Project` and `Join` build new variables and change
nothing.

A variable's `Data` is a `[]float64` that `Evaluate` copies and no function
reads; it is left out, and with it the copy is the variable itself.
-/

namespace ATenBound.TensorLogic

/-- `VariableType`, a Go string type. -/
abbrev VariableType := String

def symbolicType : VariableType := "symbolic"
def neuralType : VariableType := "neural"
def probabilisticType : VariableType := "probabilistic"
def hybridType : VariableType := "hybrid"

structure Variable where
  name : String
  indices : List String
  shape : List Int
  type : VariableType
  deriving DecidableEq, Repr

structure TensorEquation where
  left : Variable
  right : String
  operation : String
  deriving DecidableEq, Repr

/-- `Framework`; `vars` is the `Variables` map (`variables` is a Lean keyword). -/
structure Framework where
  vars : GoMap Variable
  equations : List TensorEquation

/-- `NewFramework`; its error result is always nil. -/
def newFramework : Framework :=
  ⟨∅, []⟩

namespace Framework

/-- `RegisterVariable`: store the variable under its name, replacing an earlier
one. -/
def registerVariable (f : Framework) : Option Variable → Except Err Unit × Framework
  | none =>
      (.error (.new .invalidParameter
        "tensorlogic.(Framework).RegisterVariable" "variable is nil"), f)
  | some v =>
      if v.name = "" then
        (.error (.new .invalidParameter
          "tensorlogic.(Framework).RegisterVariable" "variable name is empty"), f)
      else (.ok (), { f with vars := f.vars.insert v.name v })

def defineEquation (f : Framework) : Option TensorEquation → Except Err Unit × Framework
  | none =>
      (.error (.new .invalidParameter
        "tensorlogic.(Framework).DefineEquation" "equation is nil"), f)
  | some eq => (.ok (), { f with equations := f.equations ++ [eq] })

/-- `Evaluate`: a copy of the named variable. -/
def evaluate (f : Framework) (varName : String) : Except Err Variable :=
  match f.vars.lookup varName with
  | none =>
      .error (.new .invalidParameter
        "tensorlogic.(Framework).Evaluate" s!"variable {varName} not found")
  | some v => .ok { name := v.name, indices := v.indices, shape := v.shape, type := v.type }

def project (_f : Framework) (v : Option Variable) (indices : List String) :
    Except Err Variable :=
  match v with
  | none =>
      .error (.new .invalidParameter "tensorlogic.(Framework).Project" "variable is nil")
  | some v =>
      .ok { name := v.name ++ "_projected", indices := indices, shape := [], type := v.type }

def join (_f : Framework) (v1 v2 : Option Variable) : Except Err Variable :=
  match v1, v2 with
  | some v1, some v2 =>
      .ok
        { name := v1.name ++ "_join_" ++ v2.name, indices := [], shape := [],
          type := hybridType }
  | _, _ =>
      .error (.new .invalidParameter
        "tensorlogic.(Framework).Join" "one or both variables are nil")

def integrateWithBoundary (_f : Framework) : Except Err Unit :=
  .ok ()

end Framework

end ATenBound.TensorLogic
