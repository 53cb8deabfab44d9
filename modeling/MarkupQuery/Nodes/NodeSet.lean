import MarkupQuery.Nodes.Node

namespace MarkupQuery

def firsts {α : Type} [DecidableEq α] : List α → List α
  | [] => []
  | a :: as => a :: (firsts as).filter (· ≠ a)

theorem nodup_firsts {α : Type} [DecidableEq α] (as : List α) : (firsts as).Nodup := by
  induction as with
  | nil => exact List.nodup_nil
  | cons a as ih =>
    refine List.nodup_cons.mpr ⟨?_, ih.sublist List.filter_sublist⟩
    simp

structure NodeSet where
  home : Nat
  nodes : List Node
  nodup : nodes.Nodup

namespace NodeSet

def ofList (home : Nat) (nodes : List Node) : NodeSet := ⟨home, firsts nodes, nodup_firsts nodes⟩

def empty (home : Nat) : NodeSet := ⟨home, [], List.nodup_nil⟩

def size (s : NodeSet) : Nat := s.nodes.length

def sorted (home : Nat) (nodes : List Node) : List Node :=
  let distinct := firsts nodes
  (distinct.filter (·.document == home)).mergeSort (fun m n => Node.pathLe m.path n.path) ++
    distinct.filter (·.document != home)

end NodeSet

end MarkupQuery
