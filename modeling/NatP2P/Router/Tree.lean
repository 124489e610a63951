import Mathlib.Data.List.DropRight
import NatP2P.Common.Bytes
import NatP2P.Common.GoMap

/-!
# The route tree

The router keeps its handlers in a tree of path segments. A segment of a pattern is static, a
parameter (`:id`) or, at the end, a wildcard (`*path`). `insert` builds the nodes of a pattern while
it walks down, so what it has built stays behind when a later segment is refused.

Reference: `p2pnode/router/tree.go`.
-/

namespace NatP2P.Router

open List

/-- A node of the tree. Nothing reads the size of `children`, so the map is its lookup function. -/
structure RouteNode (H : Type*) where
  pattern : Bytes
  handler : Option H
  children : Bytes → Option (RouteNode H)
  paramChild : Option (RouteNode H)
  wildcardChild : Option (RouteNode H)

/-- The errors of `insert`. -/
inductive RouteError where
  | nilHandler
  | duplicate (pattern : Bytes)
  | wildcardNotLast (segment : Bytes)
  | wildcardConflict (existing : Bytes)
  | paramConflict (existing segment : Bytes)

/-- The segments of a path, without the empty ones. -/
def splitPath (path : Bytes) : List Bytes :=
  (((path.dropWhile (· = 47)).rdropWhile (· = 47)).splitOn 47).filter (· ≠ [])

variable {H : Type*}

namespace RouteNode

/-- A node without children. -/
def new (pattern : Bytes) (handler : Option H) : RouteNode H :=
  ⟨pattern, handler, fun _ => none, none, none⟩

/-- The loop of `insert`, from a node on: `*` is 42 and `:` is 58. -/
def insertFrom (pattern : Bytes) (handler : H) (node : RouteNode H) :
    List Bytes → RouteNode H × Except RouteError Unit
  | [] =>
    if node.handler.isSome then (node, .error (.duplicate pattern))
    else ({ node with handler := some handler }, .ok ())
  | seg :: rest =>
    if seg.head? = some 42 then
      if rest ≠ [] then (node, .error (.wildcardNotLast seg))
      else
        match node.wildcardChild with
        | some child => (node, .error (.wildcardConflict child.pattern))
        | none => ({ node with wildcardChild := some (new seg (some handler)) }, .ok ())
    else if seg.head? = some 58 then
      let child := node.paramChild.getD (new seg none)
      if child.pattern ≠ seg then (node, .error (.paramConflict child.pattern seg))
      else
        let (child, result) := child.insertFrom pattern handler rest
        ({ node with paramChild := some child }, result)
    else
      let child := (node.children seg).getD (new seg none)
      let (child, result) := child.insertFrom pattern handler rest
      ({ node with children := Function.update node.children seg (some child) }, result)

/-- `insert`, with the tree it leaves behind. -/
def insert (tree : RouteNode H) (pattern : Bytes) :
    Option H → RouteNode H × Except RouteError Unit
  | none => (tree, .error .nilHandler)
  | some handler => tree.insertFrom pattern handler (splitPath pattern)

/-- The results of registrations that follow each other. -/
def insertAll (tree : RouteNode H) : List (Bytes × Option H) → List (Except RouteError Unit)
  | [] => []
  | (pattern, handler) :: later =>
    let (tree, result) := tree.insert pattern handler
    result :: tree.insertAll later

/-- `strings.TrimPrefix` for a text of one byte. -/
def trimPrefix (text : Bytes) (head : UInt8) : Bytes :=
  if text.head? = some head then text.tail else text

/-- `searchNode` with the map of parameters that all branches share. -/
def searchNode (node : RouteNode H) :
    List Bytes → GoMap Bytes Bytes → Option H × GoMap Bytes Bytes
  | [], params => (node.handler, params)
  | seg :: rest, params =>
    let static := (node.children seg).elim (none, params) (·.searchNode rest params)
    if static.1.isSome then static
    else
      let param := node.paramChild.elim static fun child =>
        let name := trimPrefix child.pattern 58
        let (handler, params) := child.searchNode rest (static.2.set name seg)
        if handler.isSome then (handler, params) else (none, params.delete name)
      if param.1.isSome then param
      else node.wildcardChild.elim param fun child =>
        (child.handler, param.2.set (trimPrefix child.pattern 42) ([47].intercalate (seg :: rest)))

/-- `search`. -/
def search (tree : RouteNode H) (path : Bytes) : Option (H × GoMap Bytes Bytes) :=
  let (handler, params) := tree.searchNode (splitPath path) .empty
  handler.map (·, params)

/-! ## Failed registrations

What a refused pattern leaves behind are nodes without a handler. A static one is not seen: a search
goes on behind it as if it was not there, and a registration finds the node that it would have
built. A parameter node keeps every other name from its place. -/

/-- `insert` builds a parameter node on its way down the segments. -/
def buildsParam (node : RouteNode H) : List Bytes → Bool
  | [] => false
  | seg :: rest =>
    if seg.head? = some 42 then false
    else if seg.head? = some 58 then
      node.paramChild.elim true fun child => child.pattern = seg && child.buildsParam rest
    else ((node.children seg).getD (new seg none)).buildsParam rest

/-- The second node is the first one with more static nodes, without a handler, in the tree. -/
inductive Padded : RouteNode H → RouteNode H → Prop
  | refl (node : RouteNode H) : Padded node node
  | mk {node padded : RouteNode H} (pattern : padded.pattern = node.pattern)
      (handler : padded.handler = node.handler)
      (wildcard : padded.wildcardChild = node.wildcardChild)
      (noParam : padded.paramChild = none ↔ node.paramChild = none)
      (param : ∀ child child', node.paramChild = some child → padded.paramChild = some child' →
        Padded child child')
      (noStatic : ∀ seg, padded.children seg = none → node.children seg = none)
      (static : ∀ seg child', padded.children seg = some child' →
        Padded ((node.children seg).getD (new seg none)) child') : Padded node padded

theorem Padded.pattern_eq {node padded : RouteNode H} (h : Padded node padded) :
    padded.pattern = node.pattern := by
  cases h with
  | refl => rfl
  | mk pattern => exact pattern

/-- The nodes for a static segment, as `insert` takes them. -/
theorem Padded.static_getD {node padded : RouteNode H} (h : Padded node padded) (seg : Bytes) :
    Padded ((node.children seg).getD (new seg none)) ((padded.children seg).getD (new seg none)) := by
  cases h with
  | refl => exact .refl _
  | mk _ _ _ _ _ noStatic static =>
    cases hchild : padded.children seg with
    | none =>
      rw [noStatic seg hchild]
      exact .refl _
    | some child' => exact static seg child' hchild

theorem searchNode_new (own : Bytes) (segs : List Bytes) (params : GoMap Bytes Bytes) :
    (new own (none : Option H)).searchNode segs params = (none, params) := by
  cases segs <;> rfl

/-- A search does not see the static nodes that were added. -/
theorem Padded.searchNode {node padded : RouteNode H} (h : Padded node padded) (segs : List Bytes)
    (params : GoMap Bytes Bytes) : padded.searchNode segs params = node.searchNode segs params := by
  induction segs generalizing node padded params with
  | nil =>
    cases h with
    | refl => rfl
    | mk _ handler => rw [RouteNode.searchNode, handler, RouteNode.searchNode]
  | cons seg rest ih =>
    have hstatic : (padded.children seg).elim (none, params) (·.searchNode rest params) =
        (node.children seg).elim (none, params) (·.searchNode rest params) := by
      have hchild := ih (h.static_getD seg) params
      cases hnode : node.children seg <;> cases hpadded : padded.children seg <;>
        simp_all [searchNode_new]
    cases h with
    | refl => rfl
    | mk _ _ wildcard noParam param =>
      rw [RouteNode.searchNode, RouteNode.searchNode, hstatic, wildcard]
      cases hparam : node.paramChild with
      | none => rw [noParam.mpr hparam]
      | some child =>
        cases hpadded : padded.paramChild with
        | none => cases hparam.symm.trans (noParam.mp hpadded)
        | some child' =>
          have hchild := param child child' hparam hpadded
          have hsearch : child'.searchNode rest = child.searchNode rest := funext (ih hchild)
          dsimp only [Option.elim_some]
          rw [hsearch, hchild.pattern_eq]

/-- A registration succeeds or fails with and without them, and leaves trees of the same kind. -/
theorem Padded.insertFrom {node padded : RouteNode H} (h : Padded node padded) (pattern : Bytes)
    (handler : H) (segs : List Bytes) :
    (padded.insertFrom pattern handler segs).2 = (node.insertFrom pattern handler segs).2 ∧
      Padded (node.insertFrom pattern handler segs).1
        (padded.insertFrom pattern handler segs).1 := by
  induction segs generalizing node padded with
  | nil =>
    cases h with
    | refl => exact ⟨rfl, .refl _⟩
    | mk hpattern hhandler wildcard noParam param noStatic static =>
      rw [RouteNode.insertFrom, RouteNode.insertFrom, hhandler]
      split_ifs
      · exact ⟨rfl, .mk hpattern hhandler wildcard noParam param noStatic static⟩
      · exact ⟨rfl, .mk hpattern rfl wildcard noParam param noStatic static⟩
  | cons seg rest ih =>
    have hstatic := ih (h.static_getD seg)
    cases h with
    | refl => exact ⟨rfl, .refl _⟩
    | mk hpattern hhandler wildcard noParam param noStatic static =>
      rw [RouteNode.insertFrom, RouteNode.insertFrom, wildcard]
      split_ifs
      · exact ⟨rfl, .mk hpattern hhandler wildcard noParam param noStatic static⟩
      · cases node.wildcardChild with
        | none => exact ⟨rfl, .mk hpattern hhandler rfl noParam param noStatic static⟩
        | some child => exact ⟨rfl, .mk hpattern hhandler wildcard noParam param noStatic static⟩
      · -- a parameter child that is missing is missing on both sides
        have hchild : Padded (node.paramChild.getD (new seg none))
            (padded.paramChild.getD (new seg none)) := by
          cases hparam : node.paramChild with
          | none =>
            rw [noParam.mpr hparam]
            exact .refl _
          | some child =>
            cases hpadded : padded.paramChild with
            | none => cases hparam.symm.trans (noParam.mp hpadded)
            | some child' => exact param child child' hparam hpadded
        dsimp only
        rw [hchild.pattern_eq]
        split_ifs
        · exact ⟨rfl, .mk hpattern hhandler wildcard noParam param noStatic static⟩
        · refine ⟨(ih hchild).1, .mk hpattern hhandler rfl (by simp) ?_ noStatic static⟩
          rintro _ _ ⟨⟩ ⟨⟩
          exact (ih hchild).2
      · -- one static child changes, on both sides alike
        refine ⟨hstatic.1, .mk hpattern hhandler rfl noParam param ?_ ?_⟩
        · intro other hnone
          by_cases hother : other = seg
          · subst hother
            simp at hnone
          · simp only [Function.update_of_ne hother] at hnone ⊢
            exact noStatic other hnone
        · intro other child' hchild'
          by_cases hother : other = seg
          · subst hother
            simp only [Function.update_self, Option.some.injEq] at hchild' ⊢
            subst hchild'
            exact hstatic.2
          · simp only [Function.update_of_ne hother] at hchild' ⊢
            exact static other child' hchild'

theorem Padded.insertAll {tree padded : RouteNode H} (h : Padded tree padded)
    (later : List (Bytes × Option H)) : padded.insertAll later = tree.insertAll later := by
  induction later generalizing tree padded with
  | nil => rfl
  | cons registration later ih =>
    obtain ⟨pattern, handler⟩ := registration
    have hinsert : (padded.insert pattern handler).2 = (tree.insert pattern handler).2 ∧
        Padded (tree.insert pattern handler).1 (padded.insert pattern handler).1 := by
      cases handler with
      | none => exact ⟨rfl, h⟩
      | some handler => exact h.insertFrom pattern handler _
    rw [RouteNode.insertAll, RouteNode.insertAll]
    exact congrArg₂ cons hinsert.1 (ih hinsert.2)

/-- A registration that fails and builds no parameter node only adds static nodes. -/
theorem padded_insertFrom (pattern : Bytes) (handler : H) {segs : List Bytes} {node : RouteNode H}
    {err : RouteError} (hfail : (node.insertFrom pattern handler segs).2 = .error err)
    (hparam : node.buildsParam segs = false) :
    Padded node (node.insertFrom pattern handler segs).1 := by
  induction segs generalizing node with
  | nil =>
    rw [insertFrom] at hfail ⊢
    split_ifs at hfail ⊢
    exact .refl node
  | cons seg rest ih =>
    rw [insertFrom] at hfail ⊢
    rw [buildsParam] at hparam
    split_ifs at hfail hparam ⊢ with hwild hrest hcolon
    · exact .refl node
    · cases hchild : node.wildcardChild with
      | none =>
        rw [hchild] at hfail
        cases hfail
      | some child => exact .refl node
    · -- no parameter child is built, so there is one to go to
      cases hchild : node.paramChild with
      | none => simp [hchild] at hparam
      | some child =>
        simp only [hchild, Option.getD_some, Option.elim_some] at hfail hparam ⊢
        split_ifs at hfail ⊢ with hown
        · exact .refl node
        · rw [not_not.mp hown] at hparam
          have hpadded := ih hfail (by simpa using hparam)
          refine .mk rfl rfl rfl (by simp [hchild]) ?_ (fun _ => id) fun seg child' hstatic => ?_
          · rw [hchild]
            rintro _ _ ⟨⟩ ⟨⟩
            exact hpadded
          · dsimp only at hstatic
            rw [hstatic]
            exact .refl _
    · -- the only change is behind the child of this segment
      have hpadded := ih hfail hparam
      refine .mk rfl rfl rfl Iff.rfl ?_ ?_ ?_
      · rintro child child' hchild hchild'
        obtain rfl := Option.mem_unique hchild hchild'
        exact .refl child
      · intro other hnone
        by_cases hother : other = seg
        · subst hother
          simp at hnone
        · simpa only [Function.update_of_ne hother] using hnone
      · intro other child' hchild'
        by_cases hother : other = seg
        · subst hother
          simp only [Function.update_self, Option.some.injEq] at hchild'
          subst hchild'
          exact hpadded
        · simp only [Function.update_of_ne hother] at hchild'
          rw [hchild']
          exact .refl child'

/-- Another name for a parameter. -/
def otherParam (seg : Bytes) : Bytes := if seg = [58] then [58, 58] else [58]

/-- Segments that a path can have. -/
def IsPath (segs : List Bytes) : Prop := ∀ seg ∈ segs, seg ≠ [] ∧ 47 ∉ seg

theorem insertFrom_pattern (node : RouteNode H) (pattern : Bytes) (handler : H)
    (segs : List Bytes) : (node.insertFrom pattern handler segs).1.pattern = node.pattern := by
  cases segs with
  | nil =>
    rw [insertFrom]
    split_ifs <;> rfl
  | cons seg rest =>
    rw [insertFrom]
    split_ifs
    · rfl
    · cases node.wildcardChild <;> rfl
    · dsimp only
      split_ifs <;> rfl
    · rfl

/-- A parameter node that was built keeps another name from its place, which was free before. -/
theorem exists_blocked (pattern : Bytes) (handler : H) {segs : List Bytes} {node : RouteNode H}
    (hpath : IsPath segs) (hparam : node.buildsParam segs = true) :
    ∃ later, IsPath later ∧ ∀ other, (node.insertFrom other handler later).2 = .ok () ∧
      ((node.insertFrom pattern handler segs).1.insertFrom other handler later).2 ≠ .ok () := by
  induction segs generalizing node with
  | nil => cases hparam
  | cons seg rest ih =>
    obtain ⟨hseg, hrest⟩ := forall_mem_cons.mp hpath
    rw [buildsParam] at hparam
    split_ifs at hparam with hwild hcolon
    · cases hchild : node.paramChild with
      | none =>
        have hother : otherParam seg ≠ seg ∧ (otherParam seg).head? = some 58 ∧
            otherParam seg ≠ [] ∧ 47 ∉ otherParam seg := by
          unfold otherParam
          split_ifs with heq
          · simp [heq]
          · exact ⟨Ne.symm heq, rfl, by decide, by decide⟩
        refine ⟨[otherParam seg], forall_mem_singleton.mpr hother.2.2, fun other => ⟨?_, ?_⟩⟩
        · simp [insertFrom, hother.2.1, hchild, new]
        · simp [insertFrom, hother.2.1, hcolon, hchild, insertFrom_pattern, new, hother.1.symm]
      | some child =>
        simp only [hchild, Option.elim_some, Bool.and_eq_true, decide_eq_true_eq] at hparam
        obtain ⟨later, hlater, hblocked⟩ := ih hrest hparam.2
        refine ⟨seg :: later, forall_mem_cons.mpr ⟨hseg, hlater⟩, fun other => ?_⟩
        simpa [insertFrom, hcolon, hchild, hparam.1, insertFrom_pattern] using hblocked other
    · obtain ⟨later, hlater, hblocked⟩ := ih hrest hparam
      refine ⟨seg :: later, forall_mem_cons.mpr ⟨hseg, hlater⟩, fun other => ?_⟩
      simpa [insertFrom, hwild, hcolon] using hblocked other

/-- The segments are the parts between the slashes that are not empty. -/
theorem splitPath_eq (path : Bytes) : splitPath path = (path.splitOn 47).filter (· ≠ []) := by
  have hfront (text : Bytes) : ((text.dropWhile (· = 47)).splitOn 47).filter (· ≠ []) =
      (text.splitOn 47).filter (· ≠ []) := by
    induction text with
    | nil => rfl
    | cons c text ih =>
      rw [dropWhile_cons]
      split_ifs with hslash
      · rw [ih, splitOn_cons_eq_if_modifyHead, if_pos (by simpa using hslash)]
        rfl
      · rfl
  have hback (text : Bytes) : ((text.rdropWhile (· = 47)).splitOn 47).filter (· ≠ []) =
      (text.splitOn 47).filter (· ≠ []) := by
    induction text using reverseRecOn with
    | nil => rfl
    | append_singleton text c ih =>
      rw [rdropWhile_concat]
      split_ifs with hslash
      · obtain rfl : c = 47 := by simpa using hslash
        rw [ih, splitOn_append_cons_self, filter_append]
        simp
      · rfl
  rw [splitPath, hback, hfront]

theorem isPath_splitPath (path : Bytes) : IsPath (splitPath path) := by
  have hparts (text : Bytes) : ∀ part ∈ text.splitOn 47, 47 ∉ part := by
    induction text with
    | nil => simp
    | cons c text ih =>
      rw [splitOn_cons_eq_if_modifyHead]
      split_ifs with hslash
      · exact forall_mem_cons.mpr ⟨not_mem_nil, ih⟩
      · cases hsplit : text.splitOn 47 with
        | nil => simp
        | cons part parts =>
          rw [hsplit, forall_mem_cons] at ih
          refine forall_mem_cons.mpr ⟨fun hmem => ?_, ih.2⟩
          rcases mem_cons.mp hmem with rfl | hmem
          · exact hslash rfl
          · exact ih.1 hmem
  intro seg hseg
  rw [splitPath_eq, mem_filter] at hseg
  exact ⟨by simpa using hseg.2, hparts path seg hseg.1⟩

/-- The segments of a path that is put together from them. -/
theorem splitPath_intercalate {segs : List Bytes} (hpath : IsPath segs) :
    splitPath ([47].intercalate segs) = segs := by
  rw [splitPath_eq]
  by_cases hsegs : segs = []
  · subst hsegs
    rfl
  · rw [splitOn_intercalate 47 (fun seg hseg => (hpath seg hseg).2) hsegs, filter_eq_self]
    intro seg hseg
    simpa using (hpath seg hseg).1

/-- **A failed registration has no effect** if and only if it builds no parameter node: every search
is answered as before, and all later registrations succeed and fail as they would have without
it. -/
theorem failed_insert_has_no_effect (tree : RouteNode H) (pattern : Bytes) (handler : Option H)
    (err : RouteError) (hfail : (tree.insert pattern handler).2 = .error err) :
    ((∀ path, (tree.insert pattern handler).1.search path = tree.search path) ∧
      ∀ later, (tree.insert pattern handler).1.insertAll later = tree.insertAll later) ↔
    handler = none ∨ tree.buildsParam (splitPath pattern) = false := by
  cases handler with
  | none => exact iff_of_true ⟨fun _ => rfl, fun _ => rfl⟩ (.inl rfl)
  | some handler =>
    rw [or_iff_right nofun]
    constructor
    · rintro ⟨-, hsame⟩
      by_contra hparam
      obtain ⟨later, hpath, hblocked⟩ := exists_blocked pattern handler (isPath_splitPath pattern)
        (Bool.eq_true_of_not_eq_false hparam)
      obtain ⟨haccepted, hrefused⟩ := hblocked ([47].intercalate later)
      have hlater := hsame [([47].intercalate later, some handler)]
      simp only [insertAll, RouteNode.insert, splitPath_intercalate hpath, haccepted, cons.injEq,
        and_true] at hlater
      exact hrefused hlater
    · intro hparam
      have hpadded := padded_insertFrom pattern handler hfail hparam
      refine ⟨fun path => ?_, hpadded.insertAll⟩
      rw [search, search]
      exact congrArg (fun found => found.1.map (·, found.2)) (hpadded.searchNode _ _)

/-- The empty tree. -/
def newRouteTree : RouteNode H := new [] none

/-- Behind `/s/:a`, the pattern `/s/:a/*x/y` is refused and builds nothing. -/
theorem failed_insert_has_no_effect_below :
    let tree := (newRouteTree.insert [47, 115, 47, 58, 97] (some ())).1
    let failed := tree.insert [47, 115, 47, 58, 97, 47, 42, 120, 47, 121] (some ())
    failed.2 = .error (.wildcardNotLast [42, 120]) ∧ ∀ later,
      failed.1.insertAll later = tree.insertAll later :=
  ⟨rfl, ((failed_insert_has_no_effect _ _ _ (.wildcardNotLast [42, 120]) rfl).mpr (.inr rfl)).2⟩

/-- `/:a/*x/y` is refused, and `/:b` after it, which the empty tree accepts. -/
theorem failed_insert_blocks_later :
    let failed := newRouteTree.insert [47, 58, 97, 47, 42, 120, 47, 121] (some ())
    failed.2 = .error (.wildcardNotLast [42, 120]) ∧
      failed.1.insertAll [([47, 58, 98], some ())] = [.error (.paramConflict [58, 97] [58, 98])] ∧
      newRouteTree.insertAll [([47, 58, 98], some ())] = [.ok ()] :=
  ⟨rfl, rfl, rfl⟩

end RouteNode

end NatP2P.Router
