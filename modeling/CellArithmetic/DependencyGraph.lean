import CellArithmetic.Formula
import CellArithmetic.Names

/-! Which names depend on which. A graph is a finite set of pairs of a dependee and a
dependent, kept in one index for each direction together with its size; the two
indexes always hold the same pairs. -/
namespace CellArithmetic

structure DependencyGraph where
  /-- Under a name, the names that depend on it. -/
  dependents : NameIndex
  /-- Under a name, the names that it depends on. -/
  dependees : NameIndex
  size : Nat
deriving DecidableEq

namespace DependencyGraph

def empty : DependencyGraph := ⟨∅, ∅, 0⟩

def isEmpty (graph : DependencyGraph) : Bool := graph.size == 0

def has (graph : DependencyGraph) (dependee dependent : String) : Bool :=
  graph.dependents.has dependee dependent

def dependentsOf (graph : DependencyGraph) (node : String) : Names := graph.dependents.names node

def dependeesOf (graph : DependencyGraph) (node : String) : Names := graph.dependees.names node

def hasDependents (graph : DependencyGraph) (node : String) : Bool := graph.dependents.contains node

def hasDependees (graph : DependencyGraph) (node : String) : Bool := graph.dependees.contains node

/-- Every name that has a dependent or a dependee. -/
def nodes (graph : DependencyGraph) : Names :=
  .ofList (graph.dependents.keys ++ graph.dependees.keys)

/-- The first index decides whether the pair is new; only then do the other index and
the size follow. -/
def add (graph : DependencyGraph) (dependee dependent : String) : DependencyGraph :=
  let dependents := graph.dependents.link dependee dependent
  if graph.has dependee dependent then { graph with dependents }
  else
    { dependents
      dependees := graph.dependees.link dependent dependee
      size := graph.size + 1 }

/-- The first index decides whether the pair was there; only then do the other index and
the size follow. -/
def remove (graph : DependencyGraph) (dependee dependent : String) : DependencyGraph :=
  let dependents := graph.dependents.unlink dependee dependent
  if graph.has dependee dependent then
    { dependents
      dependees := graph.dependees.unlink dependent dependee
      size := graph.size - 1 }
  else { graph with dependents }

/-- Makes the given names, and no others, depend on the node. -/
def replaceDependents (graph : DependencyGraph) (node : String) (names : List String) :
    DependencyGraph :=
  let bare := (graph.dependentsOf node).toList.foldl (fun graph name => graph.remove node name) graph
  names.foldl (fun graph name => graph.add node name) bare

/-- Makes the node depend on the given names and on no others. -/
def replaceDependees (graph : DependencyGraph) (node : String) (names : List String) :
    DependencyGraph :=
  let bare := (graph.dependeesOf node).toList.foldl (fun graph name => graph.remove name node) graph
  names.foldl (fun graph name => graph.add name node) bare

/-- Makes a cell depend on the cells that its formula refers to. -/
def addFormula (graph : DependencyGraph) (cell : String) (formula : Formula) : DependencyGraph :=
  graph.replaceDependees cell formula.cells.toList

end CellArithmetic.DependencyGraph
