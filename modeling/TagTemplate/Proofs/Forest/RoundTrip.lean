import Mathlib.Data.List.Nodup
import TagTemplate.Proofs.Forest.Growth

/-!
# Reading a forest back

Where the tags of a dialect tell its directives apart, a well-formed forest is read back from the
units that it spans. The nodes inside an open directive pass by without touching it, as the first
tag of a directive is never a later tag of another; and a directive is settled at its own last
tag, as no directive's tags are the first tags of another.
-/

namespace TagTemplate

variable {d : Dialect}

/-- The tags of a dialect tell its directives apart. -/
structure Dialect.Unambiguous (d : Dialect) : Prop where
  /-- No directive is registered twice. -/
  nodup : d.directives.Nodup
  /-- The tags of a directive are not the first tags of another. -/
  apart : ∀ r ∈ d.directives, ∀ s ∈ d.directives,
    TagShape.leads d.nameCase r.shapes s.shapes = true → r = s
  /-- The first tag of a directive is not a later tag of any. -/
  first : ∀ r ∈ d.directives, ∀ s ∈ d.directives, ∀ shape ∈ r.shapes.head?,
    ∀ later ∈ s.shapes.tail, later.same d.nameCase shape = false

/-- The only candidate without further tags is settled. -/
theorem settled_eq_some {matched : Nat} {candidates : List RegisteredDirective}
    {r : RegisteredDirective} (hn : candidates.Nodup) (hr : r ∈ candidates)
    (hl : r.shapes.length = matched)
    (hu : ∀ s ∈ candidates, s.shapes.length = matched → s = r) :
    settled matched candidates = some r := by
  have hf : candidates.filter (fun c => c.shapes.length == matched) = [r] := by
    have hs := hn.filter fun c : RegisteredDirective => c.shapes.length == matched
    refine List.perm_singleton.mp ((List.perm_ext_iff_of_nodup hs (List.nodup_singleton r)).mpr ?_)
    intro s
    rw [List.mem_filter, beq_iff_eq, List.mem_singleton]
    refine ⟨fun h => hu s h.1 h.2, ?_⟩
    rintro rfl
    exact ⟨hr, hl⟩
  unfold settled
  rw [hf]

/-- Nothing is settled while every candidate has further tags. -/
theorem settled_eq_none {matched : Nat} {candidates : List RegisteredDirective}
    (hu : ∀ s ∈ candidates, s.shapes.length ≠ matched) :
    settled matched candidates = none := by
  have hf : candidates.filter (fun c => c.shapes.length == matched) = [] :=
    List.filter_eq_nil_iff.mpr fun s hs => by simpa using hu s hs
  unfold settled
  rw [hf]

namespace Dialect.Unambiguous

/-- A directive whose tags are all there is the only one that opens with them. -/
theorem eq_of_complete (hd : d.Unambiguous) {shapes : List TagShape} {r s : RegisteredDirective}
    (hr : r ∈ d.opening shapes) (hs : s ∈ d.opening shapes) (hl : s.shapes.length = shapes.length) :
    s = r := by
  obtain ⟨hmr, hlr⟩ := mem_opening.mp hr
  obtain ⟨hms, hls⟩ := mem_opening.mp hs
  rw [TagShape.leads_iff, ← hl, List.take_length] at hls
  rw [← TagShape.leads_congr hls] at hlr
  exact (hd.apart r hmr s hms hlr).symm

/-- A directive that opens with some tags is settled by them if they are all its tags; otherwise
nothing is. -/
theorem settled_opening (hd : d.Unambiguous) {shapes : List TagShape} {r : RegisteredDirective}
    (hr : r ∈ d.opening shapes) :
    settled shapes.length (d.opening shapes) =
      if r.shapes.length = shapes.length then some r else none := by
  split
  · next hl =>
    refine settled_eq_some (hd.nodup.filter _) hr hl ?_
    exact fun s hs hsl => hd.eq_of_complete hr hs hsl
  · next hl =>
    refine settled_eq_none fun s hs hsl => ?_
    obtain rfl := hd.eq_of_complete hr hs hsl
    exact hl hsl

/-- The first tag of a directive does not continue an open one. -/
theorem after_eq_nil (hd : d.Unambiguous) {o : OpenDirective} (ho : o.Sound d) {shape : TagShape}
    {r : RegisteredDirective} (hr : r ∈ d.opening [shape]) : o.after d.nameCase shape = [] := by
  rw [ho.after, List.eq_nil_iff_forall_not_mem]
  intro s hs
  obtain ⟨hms, hls⟩ := mem_opening.mp hs
  obtain ⟨hmr, hlr⟩ := mem_opening.mp hr
  rw [TagShape.leads_concat, Bool.and_eq_true, LexedTag.length_shapes, ← ho.separated] at hls
  have hlater := hls.2
  split at hlater
  · next later hg =>
    have ht : later ∈ s.shapes.tail := by
      rw [← List.drop_one]
      exact List.mem_of_getElem? (by rw [List.getElem?_drop, Nat.add_comm]; exact hg)
    cases hf : r.shapes with
    | nil =>
      rw [hf] at hlr
      cases hlr
    | cons first rest =>
      rw [hf, TagShape.leads_cons, Bool.and_eq_true] at hlr
      have hsame := TagShape.same_trans hlater (TagShape.same_symm hlr.1)
      have happart := hd.first r hmr s hms first (by rw [hf]; rfl) later ht
      rw [hsame] at happart
      cases happart
  · cases hlater

end Dialect.Unambiguous

namespace Growth

/-- Units lead from one growth to another. -/
def Reaches (d : Dialect) (g : Growth) (units : List Lex) (last : Growth) : Prop :=
  g.takeAll d (units.map .ok) = .ok last

/-- No units lead anywhere else. -/
theorem Reaches.refl (g : Growth) : g.Reaches d [] g := rfl

/-- Units that lead on lead from the first growth to the last. -/
theorem Reaches.trans {g between last : Growth} {units units' : List Lex}
    (h : g.Reaches d units between) (hl : between.Reaches d units' last) :
    g.Reaches d (units ++ units') last := by
  induction units generalizing g with
  | nil =>
    cases h
    exact hl
  | cons unit units ih =>
    unfold Reaches at h
    rw [List.map_cons, takeAll] at h
    unfold Reaches
    rw [List.cons_append, List.map_cons, takeAll]
    split at h
    · cases h
    · exact ih h

/-- A unit that is taken leads to what it leaves. -/
theorem Reaches.single {g next : Growth} {unit : Lex} (h : g.take d unit = .ok next) :
    g.Reaches d [unit] next := by
  unfold Reaches
  rw [List.map_singleton, takeAll, h]
  rfl

/-- Adds nodes, in order. -/
def addAll (g : Growth) (nodes : Forest) : Growth := nodes.foldl add g

/-- Nodes that are added outside all directives are finished. -/
theorem addAll_nil (roots nodes : Forest) : addAll ⟨[], roots⟩ nodes = ⟨[], roots ++ nodes⟩ := by
  induction nodes generalizing roots with
  | nil => rw [List.append_nil]; rfl
  | cons node nodes ih =>
    refine (ih (roots ++ [node])).trans ?_
    rw [List.append_assoc]
    rfl

/-- Nodes that are added inside an open directive belong to its last content. -/
theorem addAll_cons (o : OpenDirective) (outer : List OpenDirective) (roots nodes : Forest) :
    addAll ⟨o :: outer, roots⟩ nodes =
      ⟨{ o with body := o.body ++ nodes } :: outer, roots⟩ := by
  induction nodes generalizing o with
  | nil => rw [List.append_nil]; rfl
  | cons node nodes ih =>
    refine (ih { o with body := o.body ++ [node] }).trans ?_
    rw [List.append_assoc]
    rfl

end Growth

/-- Wherever it is read, a node is read back from its units. -/
def Node.ReadBack (d : Dialect) (node : Node) : Prop :=
  ∀ g : Growth, g.Sound d → g.Reaches d node.units (g.add node)

namespace Growth

variable {g : Growth}

/-- What units lead to from a sound growth is sound. -/
theorem Reaches.sound {units : List Lex} {last : Growth} (hr : g.Reaches d units last)
    (h : g.Sound d) : last.Sound d :=
  (h.takeAll hr).1

/-- Nodes that are read back one by one are read back together. -/
theorem reaches_addAll {nodes : Forest} (hn : ∀ node ∈ nodes, node.ReadBack d)
    (h : g.Sound d) : g.Reaches d nodes.units (g.addAll nodes) := by
  induction nodes generalizing g with
  | nil => exact .refl g
  | cons node nodes ih =>
    have hnode := hn node List.mem_cons_self g h
    have hrest := ih (fun n hm => hn n (List.mem_cons_of_mem node hm)) (hnode.sound h)
    exact hnode.trans hrest

/-- The content of an open directive is read back in its place. -/
theorem reaches_body {o : OpenDirective} (ho : Sound d { g with stack := o :: g.stack })
    (hempty : o.body = []) {body : Forest} (hn : ∀ node ∈ body, node.ReadBack d) :
    Reaches d { g with stack := o :: g.stack } body.units
      { g with stack := { o with body } :: g.stack } := by
  have hb := reaches_addAll hn ho
  rwa [addAll_cons, hempty, List.nil_append] at hb

/-- A first tag of a directive opens it. -/
theorem reaches_openTag (hd : d.Unambiguous) (h : g.Sound d) {tag : LexedTag}
    {r : RegisteredDirective} (hr : r ∈ d.opening [tag.shape]) :
    g.Reaches d [.tag tag] (g.openTag tag (d.opening [tag.shape])) := by
  have hnone : ∀ o ∈ g.stack, o.after d.nameCase tag.shape = [] :=
    fun o ho => hd.after_eq_nil (h.stack o ho) hr
  have ht := takeTag_eq_ok_iff.mpr (.inr ⟨hnone, List.ne_nil_of_mem hr, rfl⟩)
  exact .single ht

/-- A next tag of the innermost open directive continues it. -/
theorem reaches_continueTag {o : OpenDirective} (ho : o.Sound d) {tag : LexedTag}
    {r : RegisteredDirective} (hr : r ∈ d.opening (LexedTag.shapes (o.tags ++ [tag]))) :
    Reaches d { g with stack := o :: g.stack } [.tag tag]
      (g.continueTag o g.stack tag (d.opening (LexedTag.shapes (o.tags ++ [tag])))) := by
  have ha : o.after d.nameCase tag.shape = d.opening (LexedTag.shapes (o.tags ++ [tag])) := by
    rw [LexedTag.shapes_append]
    exact ho.after tag.shape
  rw [← ha] at hr ⊢
  have ht : takeTag d { g with stack := o :: g.stack } tag = .ok _ :=
    takeTag_eq_ok_iff.mpr (.inl ⟨o, g.stack, rfl, List.ne_nil_of_mem hr, rfl⟩)
  exact .single ht

/-- The remaining tags of an open directive, with their contents between them, lead to its
node. -/
theorem reaches_directive (hd : d.Unambiguous) {r : RegisteredDirective} (hr : r ∈ d.directives)
    (h : g.Sound d) {later : List LexedTag} {tag : LexedTag} {bodies : List Forest}
    (hl : bodies.length = later.length) (hb : ∀ body ∈ bodies, ∀ node ∈ body, node.ReadBack d)
    {o : OpenDirective} (ho : o.Sound d)
    (hm : TagShape.AllSame d.nameCase r.shapes (LexedTag.shapes (o.tags ++ tag :: later))) :
    Reaches d { g with stack := o :: g.stack }
      (LexedTag.weave (tag :: later) (bodies.map Forest.units))
      (g.add (.directive r.directive o.position (o.tags ++ tag :: later)
        (o.bodies ++ o.body :: bodies))) := by
  induction later generalizing tag bodies o with
  | nil =>
    obtain rfl := List.length_eq_zero_iff.mp hl
    have hlead : r ∈ d.opening (LexedTag.shapes (o.tags ++ [tag])) :=
      Dialect.mem_opening.mpr ⟨hr, TagShape.leads_of_allSame (by rwa [List.append_nil])⟩
    have hset := hd.settled_opening hlead
    rw [if_pos hm.length_eq, LexedTag.length_shapes] at hset
    have ht := reaches_continueTag (g := g) ho hlead
    unfold continueTag at ht
    dsimp only at ht
    rw [hset] at ht
    exact ht
  | cons next later ih => cases bodies with
    | nil => cases hl
    | cons body bodies =>
      have hbody := hb body List.mem_cons_self
      have hbodies : ∀ b ∈ bodies, ∀ node ∈ b, node.ReadBack d :=
        fun b hm => hb b (List.mem_cons_of_mem body hm)
      rw [List.append_cons, LexedTag.shapes_append] at hm
      have hlead : r ∈ d.opening (LexedTag.shapes (o.tags ++ [tag])) :=
        Dialect.mem_opening.mpr ⟨hr, TagShape.leads_of_allSame hm⟩
      have hset := hd.settled_opening hlead
      have hlength := hm.length_eq
      have hmore : r.shapes.length ≠ (LexedTag.shapes (o.tags ++ [tag])).length := by
        simp only [List.length_append, LexedTag.length_shapes, List.length_cons] at hlength ⊢
        omega
      rw [if_neg hmore, LexedTag.length_shapes] at hset
      have ht := reaches_continueTag (g := g) ho hlead
      have hs := ht.sound (h.cons ho)
      unfold continueTag at ht hs
      dsimp only at ht hs
      rw [hset] at ht hs
      have hread := reaches_body hs rfl hbody
      have hlater := ih (Nat.succ.inj hl) hbodies ((hread.sound hs).stack _ List.mem_cons_self)
        (by rwa [LexedTag.shapes_append])
      have hall := ht.trans (hread.trans hlater)
      rw [List.append_assoc, List.append_assoc] at hall
      exact hall

end Growth

/-- In a dialect whose tags tell its directives apart, a node all of whose directives fit is read
back from its units wherever it is read. -/
theorem Node.readBack_of_everywhere (hd : d.Unambiguous) {node : Node}
    (h : node.Everywhere d.Fits) : node.ReadBack d := by
  induction h with
  | text s position =>
    intro g _
    exact .single rfl
  | @directive directive position tags bodies hp hb ih =>
    intro g hg
    obtain ⟨⟨r, hr, rfl, hm⟩, hs, hf⟩ := hp
    cases tags with
    | nil => cases hf
    | cons tag later =>
      cases hf
      have hl : bodies.length = later.length := Nat.succ.inj hs
      have hlead : r ∈ d.opening [tag.shape] := Dialect.mem_opening.mpr
        ⟨hr, TagShape.leads_of_allSame (by exact hm)⟩
      have hset := hd.settled_opening hlead
      rw [List.length_singleton] at hset
      have hlength := hm.length_eq
      rw [LexedTag.length_shapes] at hlength
      have ht := Growth.reaches_openTag hd hg hlead
      have hsound := ht.sound hg
      unfold Growth.openTag at ht hsound
      rw [Node.units, Forest.contents_eq_map]
      cases later with
      | nil =>
        obtain rfl := List.length_eq_zero_iff.mp hl
        rw [if_pos (by exact hlength)] at hset
        rw [hset] at ht
        exact ht
      | cons next later => cases bodies with
        | nil => cases hl
        | cons body bodies =>
          have hmore : r.shapes.length ≠ 1 := by
            rw [hlength, List.length_cons, List.length_cons]
            omega
          rw [if_neg hmore] at hset
          rw [hset] at ht hsound
          have hread := Growth.reaches_body hsound rfl (ih body List.mem_cons_self)
          have hlater := Growth.reaches_directive hd hr hg (Nat.succ.inj hl)
            (fun b hm => ih b (List.mem_cons_of_mem body hm))
            ((hread.sound hsound).stack _ List.mem_cons_self) hm
          exact ht.trans (hread.trans hlater)

/-- In a dialect whose tags tell its directives apart, a well-formed forest is read back from its
units. -/
theorem Forest.ofUnits_of_wellFormed (hd : d.Unambiguous) {forest : Forest}
    (h : forest.WellFormed d) : ofUnits d (forest.units.map .ok) = .ok forest := by
  have hr := Growth.reaches_addAll
    (fun node hn => Node.readBack_of_everywhere hd (h node hn)) (Growth.sound_empty d)
  rw [Growth.addAll_nil, List.nil_append] at hr
  unfold ofUnits
  rw [hr]
  rfl

end TagTemplate
