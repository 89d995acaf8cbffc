import EntityGraph.Store.Traversal

/-!
All shortest directed paths between two entities. A search level by level notes for every node its distance from the
source and the nodes one step nearer that lead to it; the paths are then read back from the target.
-/
namespace EntityGraph

/-- What a search from a source knows after some levels: the distance of every node reached, for each of them the
nodes before it on shortest paths, and the nodes of the last level so far. -/
structure Layering (α : Type) [Ord α] where
  depth : Std.TreeMap α Nat
  parents : Std.TreeMap α (List α)
  frontier : List α
  level : Nat

namespace Layering

variable {α : Type} [Ord α]

def start (source : α) : Layering α :=
  { depth := (∅ : Std.TreeMap α Nat).insert source 0, parents := ∅, frontier := [source], level := 0 }

def parentsOf (layering : Layering α) (node : α) : List α := layering.parents[node]?.getD []

/-- Notes a step to `neighbor`: a new node joins the last level, and every step into that level adds a parent. -/
def reach (node : α) (layering : Layering α) (neighbor : α) : Layering α :=
  let parents := layering.parents.insert neighbor (layering.parentsOf neighbor ++ [node])
  match layering.depth[neighbor]? with
  | none =>
    { layering with
      depth := layering.depth.insert neighbor layering.level
      parents
      frontier := layering.frontier ++ [neighbor] }
  | some distance => if distance = layering.level then { layering with parents } else layering

/-- One more level, on which there is nothing yet. -/
def deepen (layering : Layering α) : Layering α := { layering with frontier := [], level := layering.level + 1 }

/-- One more level: where the steps from the last one lead for the first time. -/
def advance (layering : Layering α) (step : α → List α) : Layering α :=
  layering.frontier.foldl (fun grown node => (step node).foldl (reach node) grown) layering.deepen

/-- Levels until the target is reached, nothing new is found, or the hops are used up. -/
def search (step : α → List α) (target : α) : Nat → Layering α → Layering α
  | 0, layering => layering
  | hops + 1, layering =>
    if layering.frontier.isEmpty || layering.depth.contains target then layering
    else search step target hops (layering.advance step)

/-- The paths from the source to a node at most so many steps away. -/
def pathsTo [DecidableEq α] (layering : Layering α) (source : α) : Nat → α → List (List α)
  | 0, node => if node = source then [[node]] else []
  | steps + 1, node =>
    if node = source then [[node]]
    else (layering.parentsOf node).flatMap fun parent =>
      (pathsTo layering source steps parent).map (· ++ [node])

/-- All shortest paths from the source to a node that was reached; none has more steps than there are levels. -/
def shortestTo [DecidableEq α] (layering : Layering α) (source target : α) : List (List α) :=
  if layering.depth.contains target then layering.pathsTo source layering.level target else []

end Layering

namespace Store

/-- All shortest paths of at most `maxHops` edges, as lists of ids. -/
def shortestPaths (store : Store) (source target : String) (maxHops : Nat) :
    Except StoreError (List (List String)) :=
  match store.handle? source, store.handle? target with
  | some s, some t =>
    if s = t then .ok [[source]]
    else
      let layering := Layering.search (store.neighbors .outgoing) t maxHops (Layering.start s)
      .ok ((layering.shortestTo s t).map fun path => path.map store.idAt)
  | _, _ => .error (.entitiesNotFound ([source, target].filter (!store.contains ·)).eraseDups)

end Store

end EntityGraph
