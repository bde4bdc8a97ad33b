import Mathlib.Combinatorics.SimpleGraph.Acyclic

/-! Flooding a graph.

    A parcel starts at one node and carries the nodes it has passed. A node that finds itself among
    them drops it; any other node may take it, and then sends it to some of its neighbours, or, if it
    is a node that passes parcels on, to all of them but perhaps the one it came from. What is under
    way arrives in any order.

    In a graph without cycles there is one path to a node, so no node takes the parcel twice and no
    link carries it twice in one direction; and once nothing is under way, every node has taken it to
    which a path leads that lets it through. -/

namespace TreeFlood

variable {ι : Type}

structure Parcel (ι : Type) where
  src : ι
  dst : ι
  trail : List ι

/-- What is under way, who has taken the parcel, and which links have carried it. -/
structure State (ι : Type) where
  flight : Multiset (Parcel ι)
  taken : List ι
  sent : List (ι × ι)

/-- The parcels a node sends. -/
def parcels (v : ι) (trail ws : List ι) : List (Parcel ι) := ws.map fun w => ⟨v, w, trail⟩

section

variable (G : SimpleGraph ι) (opens : ι → ι → Prop) (passes : ι → Prop)

/-- The neighbours a node sends the parcel to. -/
structure Targets (v : ι) (source : Option ι) (ws : List ι) : Prop where
  nodup : ws.Nodup
  adj : ∀ w ∈ ws, G.Adj v w
  all : passes v → ∀ w, G.Adj v w → some w ≠ source → w ∈ ws

/-- The origin has sent its parcels. -/
def Start (origin : ι) (s : State ι) : Prop :=
  ∃ ws, Targets G passes origin none ws ∧
    s = ⟨parcels origin [origin] ws, [], ws.map fun w => (origin, w)⟩

/-- A delivery; a link that is not open may lose a parcel. -/
inductive Step : State ι → State ι → Prop
  | drop {p : Parcel ι} {f : Multiset (Parcel ι)} {taken : List ι} {sent : List (ι × ι)} :
    (p.dst ∈ p.trail ∨ ¬ opens p.src p.dst) → Step ⟨p ::ₘ f, taken, sent⟩ ⟨f, taken, sent⟩
  | take {p : Parcel ι} {f : Multiset (Parcel ι)} {taken ws : List ι} {sent : List (ι × ι)} :
    p.dst ∉ p.trail → Targets G passes p.dst (some p.src) ws →
    Step ⟨p ::ₘ f, taken, sent⟩
      ⟨f + parcels p.dst (p.trail ++ [p.dst]) ws, p.dst :: taken,
        sent ++ ws.map fun w => (p.dst, w)⟩

end

/-! ### Paths from the origin -/

section

variable (G : SimpleGraph ι) (origin : ι)

/-- `u` is the last node before `v` on a path from the origin. -/
def Leads (u v : ι) : Prop := G.Adj u v ∧ ∃ w : G.Walk origin u, w.IsPath ∧ v ∉ w.support

/-- The nodes to which a path leads that lets the parcel through. -/
inductive Reached (opens : ι → ι → Prop) (passes : ι → Prop) : ι → Prop
  | origin : Reached opens passes origin
  | next {u v : ι} : Reached opens passes u → passes u → Leads G origin u v → opens u v →
    Reached opens passes v

variable {G origin} {u u' v : ι}

theorem Leads.ne_origin (h : Leads G origin u v) : v ≠ origin := by
  obtain ⟨-, w, -, hv⟩ := h
  rintro rfl
  exact hv w.start_mem_support

/-- Without cycles there is one such node. -/
theorem Leads.unique (hG : G.IsAcyclic) (h : Leads G origin u v) (h' : Leads G origin u' v) :
    u = u' := by
  obtain ⟨hadj, w, hw, hv⟩ := h
  obtain ⟨hadj', w', hw', hv'⟩ := h'
  have hsame := congrArg Subtype.val ((hG.subsingleton_path origin v).elim
    ⟨w.concat hadj, hw.concat hv hadj⟩ ⟨w'.concat hadj', hw'.concat hv' hadj'⟩)
  rw [← w.penultimate_concat hadj, ← w'.penultimate_concat hadj']
  exact congrArg SimpleGraph.Walk.penultimate hsame

theorem tail_support_concat {u v w : ι} (p : G.Walk u v) (hadj : G.Adj v w) :
    (p.concat hadj).support.tail = p.support.tail ++ [w] := by
  rw [SimpleGraph.Walk.support_concat, List.tail_append_of_ne_nil p.support_ne_nil]

/-- Each step of a path leads on from the origin. -/
theorem leads_of_mem_darts {v : ι} (w : G.Walk origin v) (hw : w.IsPath) {d : G.Dart}
    (hd : d ∈ w.darts) : Leads G origin d.fst d.snd := by
  induction w using SimpleGraph.Walk.concatRec with
  | Hnil => exact absurd hd List.not_mem_nil
  | Hconcat w hadj ih =>
    obtain ⟨hpath, hout⟩ := (SimpleGraph.Walk.concat_isPath_iff hadj).mp hw
    rw [SimpleGraph.Walk.darts_concat, List.concat_eq_append, List.mem_append,
      List.mem_singleton] at hd
    rcases hd with hd | rfl
    · exact ih hpath hd
    · exact ⟨hadj, w, hpath, hout⟩

/-- Without cycles, what leads to the nodes of a path are its own steps. -/
theorem forall_leads_iff (hG : G.IsAcyclic) {v : ι} (w : G.Walk origin v) (hw : w.IsPath)
    {R : ι → ι → Prop} : (∀ x ∈ w.support.tail, ∀ u, Leads G origin u x → R u x) ↔
      ∀ d ∈ w.darts, R d.fst d.snd := by
  rw [← SimpleGraph.Walk.map_snd_darts]
  constructor
  · intro h d hd
    exact h d.snd (List.mem_map_of_mem hd) d.fst (leads_of_mem_darts w hw hd)
  · intro h x hx u hu
    obtain ⟨d, hd, rfl⟩ := List.mem_map.mp hx
    rw [hu.unique hG (leads_of_mem_darts w hw hd)]
    exact h d hd

/-- Where the nodes in a set let the parcel in and pass it on, and the origin sends it, it gets to the
    nodes at the end of a path through that set. -/
theorem reached_of_path {free : ι → Prop} {v : ι} (w : G.Walk origin v) (hw : w.IsPath)
    (hfree : ∀ u ∈ w.support.tail, free u) :
    Reached G origin (fun _ v => free v) (fun v => v = origin ∨ free v) v := by
  induction w using SimpleGraph.Walk.concatRec with
  | Hnil => exact .origin
  | @Hconcat a u v w hadj ih =>
    obtain ⟨hpath, hout⟩ := (SimpleGraph.Walk.concat_isPath_iff hadj).mp hw
    rw [tail_support_concat] at hfree
    have hbefore : ∀ x ∈ w.support.tail, free x := fun x hx => hfree x (List.mem_append_left _ hx)
    refine .next (ih hpath hbefore) ?_ ⟨hadj, w, hpath, hout⟩ (hfree v (by simp))
    by_cases hu : u = a
    · exact Or.inl hu
    · have hmem := w.end_mem_support
      rw [← SimpleGraph.Walk.cons_tail_support] at hmem
      exact Or.inr (hbefore u ((List.mem_cons.mp hmem).resolve_left hu))

end

/-! ### What holds in every run -/

/-- The node has the parcel to send. -/
def Holds (origin : ι) (s : State ι) (v : ι) : Prop := v = origin ∨ v ∈ s.taken

/-- A parcel on its way carries the path to the node that sent it. -/
structure Underway (G : SimpleGraph ι) (origin : ι) (s : State ι) (p : Parcel ι) : Prop where
  adj : G.Adj p.src p.dst
  path : ∃ w : G.Walk origin p.src, w.IsPath ∧ p.trail = w.support
  holds : Holds origin s p.src

section

variable [DecidableEq ι]

/-- A parcel for the node, which it has not passed. -/
def Fresh (v : ι) (p : Parcel ι) : Prop := p.dst = v ∧ v ∉ p.trail

instance (v : ι) : DecidablePred (Fresh v) := fun p =>
  inferInstanceAs (Decidable (p.dst = v ∧ v ∉ p.trail))

/-- The invariant of the runs. -/
structure Inv (G : SimpleGraph ι) (origin : ι) (opens : ι → ι → Prop) (passes : ι → Prop)
    (s : State ι) : Prop where
  underway : ∀ p ∈ s.flight, Underway G origin s p
  source : ∀ v ∈ s.taken, ∃ u, Holds origin s u ∧ Leads G origin u v
  once : ∀ v, s.taken.count v + s.flight.countP (Fresh v) ≤ 1
  senders : ∀ e ∈ s.sent, Holds origin s e.1
  sent : s.sent.Nodup
  served : ∀ u v, Holds origin s u → passes u → Leads G origin u v → opens u v →
    v ∈ s.taken ∨ ∃ p ∈ s.flight, Fresh v p

end

section

variable {G : SimpleGraph ι} {origin : ι} {opens : ι → ι → Prop} {passes : ι → Prop}
  {f : Multiset (Parcel ι)} {p : Parcel ι} {s : State ι} {u v : ι} {trail taken ws : List ι}
  {sent : List (ι × ι)}

theorem Underway.leads (h : Underway G origin s p) (hnew : p.dst ∉ p.trail) :
    Leads G origin p.src p.dst := by
  obtain ⟨w, hw, htrail⟩ := h.path
  exact ⟨h.adj, w, hw, by rw [← htrail]; exact hnew⟩

/-- A parcel carries the origin, and the node that sent it. -/
theorem Underway.ends_mem (h : Underway G origin s p) : origin ∈ p.trail ∧ p.src ∈ p.trail := by
  obtain ⟨w, -, htrail⟩ := h.path
  rw [htrail]
  exact ⟨w.start_mem_support, w.end_mem_support⟩

/-- The path to the node a parcel comes to. -/
theorem Underway.extend (h : Underway G origin s p) (hnew : p.dst ∉ p.trail) :
    ∃ w : G.Walk origin p.dst, w.IsPath ∧ p.trail ++ [p.dst] = w.support := by
  obtain ⟨w, hw, htrail⟩ := h.path
  refine ⟨w.concat h.adj, hw.concat (htrail ▸ hnew) h.adj, ?_⟩
  rw [SimpleGraph.Walk.support_concat, htrail]

theorem Holds.mono {s' : State ι} (hsub : s.taken ⊆ s'.taken) (h : Holds origin s u) :
    Holds origin s' u := h.imp_right fun hu => hsub hu

theorem Underway.mono {s' : State ι} (hsub : s.taken ⊆ s'.taken) (h : Underway G origin s p) :
    Underway G origin s' p := ⟨h.adj, h.path, h.holds.mono hsub⟩

theorem mem_parcels {q : Parcel ι} : q ∈ parcels v trail ws ↔ ∃ w ∈ ws, q = ⟨v, w, trail⟩ := by
  simp only [parcels, List.mem_map, eq_comm]

variable [DecidableEq ι]

/-- Of the parcels that a node sends, one at most is for the same node. -/
theorem countP_parcels_le (hws : ws.Nodup) (v : ι) (trail : List ι) (u : ι) :
    (parcels v trail ws).countP (Fresh u) ≤ 1 := by
  rw [parcels, List.countP_map]
  refine (List.countP_mono_left fun x _ hx => ?_).trans (List.nodup_iff_count_le_one.mp hws u)
  have hfresh : Fresh u ⟨v, x, trail⟩ := of_decide_eq_true hx
  exact beq_iff_eq.mpr hfresh.1

/-- A node that has the parcel, or is about to, was sent it by the node before it. -/
theorem Inv.sender (h : Inv G origin opens passes s) (hG : G.IsAcyclic) (hleads : Leads G origin u v)
    (hv : v ∈ s.taken ∨ ∃ p ∈ s.flight, Fresh v p) : Holds origin s u := by
  rcases hv with htaken | ⟨p, hp, rfl, hnew⟩
  · obtain ⟨u', hholds, hleads'⟩ := h.source v htaken
    exact hleads.unique hG hleads' ▸ hholds
  · have hway := h.underway p hp
    exact hleads.unique hG (hway.leads hnew) ▸ hway.holds

/-- The origin takes no parcel. -/
theorem Inv.origin_notMem (h : Inv G origin opens passes s) : origin ∉ s.taken := by
  intro hmem
  obtain ⟨u, -, hleads⟩ := h.source origin hmem
  exact hleads.ne_origin rfl

/-- No node takes it twice. -/
theorem Inv.nodup (h : Inv G origin opens passes s) : s.taken.Nodup := by
  rw [List.nodup_iff_count_le_one]
  intro v
  have honce := h.once v
  omega

/-- Once nothing is under way, it has been taken wherever a path lets it through. -/
theorem Inv.complete (h : Inv G origin opens passes s) (hnone : s.flight = 0)
    (hv : Reached G origin opens passes v) : Holds origin s v := by
  induction hv with
  | origin => exact Or.inl rfl
  | @next u v _ hpass hleads hopen ih =>
    rcases h.served u v ih hpass hleads hopen with htaken | ⟨p, hp, -⟩
    · exact Or.inr htaken
    · rw [hnone] at hp
      exact absurd hp (Multiset.notMem_zero p)

/-- Where a node takes it only if it is in a set, the whole path to it is. -/
theorem Inv.free_of_holds {free : ι → Prop} (h : Inv G origin opens passes s) (hG : G.IsAcyclic)
    (htaken : ∀ v ∈ s.taken, free v) (w : G.Walk origin v) (hw : w.IsPath)
    (hv : Holds origin s v) : ∀ u ∈ w.support.tail, free u := by
  induction w using SimpleGraph.Walk.concatRec with
  | Hnil => simp
  | @Hconcat a u v w hadj ih =>
    obtain ⟨hpath, hout⟩ := (SimpleGraph.Walk.concat_isPath_iff hadj).mp hw
    have hleads : Leads G a u v := ⟨hadj, w, hpath, hout⟩
    have hmem : v ∈ s.taken := hv.resolve_left hleads.ne_origin
    rw [tail_support_concat]
    intro x hx
    rcases List.mem_append.mp hx with hx | hx
    · exact ih h hpath (h.sender hG hleads (Or.inl hmem)) x hx
    · rw [List.mem_singleton.mp hx]
      exact htaken v hmem

/-- There is a path to every node that has taken it. -/
theorem Inv.exists_path (h : Inv G origin opens passes s) (hv : v ∈ s.taken) :
    ∃ w : G.Walk origin v, w.IsPath := by
  obtain ⟨u, -, hadj, w, hw, hout⟩ := h.source v hv
  exact ⟨w.concat hadj, hw.concat hout hadj⟩

theorem inv_start (opens : ι → ι → Prop) (h : Start G passes origin s) :
    Inv G origin opens passes s := by
  obtain ⟨ws, hws, rfl⟩ := h
  refine ⟨fun p hp => ?_, fun v hv => ?_, fun v => ?_, fun e he => ?_, ?_, fun u v hu hpass hl _ => ?_⟩
  · obtain ⟨w, hw, rfl⟩ := mem_parcels.mp (Multiset.mem_coe.mp hp)
    exact ⟨hws.adj w hw, ⟨.nil, .nil, rfl⟩, Or.inl rfl⟩
  · exact absurd hv List.not_mem_nil
  · have hle := countP_parcels_le hws.nodup origin [origin] v
    rw [List.count_nil, Multiset.coe_countP, Nat.zero_add]
    exact hle
  · obtain ⟨w, -, rfl⟩ := List.mem_map.mp he
    exact Or.inl rfl
  · exact hws.nodup.map fun _ _ heq => (Prod.mk.inj heq).2
  · rcases hu with rfl | hu
    · refine Or.inr ⟨⟨u, v, [u]⟩, ?_, rfl, ?_⟩
      · exact Multiset.mem_coe.mpr (mem_parcels.mpr ⟨v, hws.all hpass v hl.1 (by simp), rfl⟩)
      · exact fun hmem => hl.ne_origin (List.mem_singleton.mp hmem)
    · exact absurd hu List.not_mem_nil

/-- A parcel is lost that no open link brought to a new node. -/
theorem Inv.drop (h : Inv G origin opens passes ⟨p ::ₘ f, taken, sent⟩) (hG : G.IsAcyclic)
    (hlost : p.dst ∈ p.trail ∨ ¬ opens p.src p.dst) :
    Inv G origin opens passes ⟨f, taken, sent⟩ := by
  refine ⟨fun q hq => ?_, h.source, fun v => ?_, h.senders, h.sent, fun u v hu hpass hl ho => ?_⟩
  · exact (h.underway q (Multiset.mem_cons_of_mem hq)).mono (List.Subset.refl taken)
  · have honce := h.once v
    rw [Multiset.countP_cons] at honce
    dsimp only at honce ⊢
    omega
  · rcases h.served u v hu hpass hl ho with htaken | ⟨q, hq, hfresh⟩
    · exact Or.inl htaken
    · rcases Multiset.mem_cons.mp hq with rfl | hq
      · -- the one that is lost
        obtain ⟨rfl, hnew⟩ := hfresh
        have hway := h.underway q (Multiset.mem_cons_self q f)
        rw [hl.unique hG (hway.leads hnew)] at ho
        exact absurd ho (hlost.resolve_left hnew)
      · exact Or.inr ⟨q, hq, hfresh⟩

/-- A node that takes a parcel has none yet, and no other one coming. -/
theorem Inv.first (h : Inv G origin opens passes ⟨p ::ₘ f, taken, sent⟩) (hnew : p.dst ∉ p.trail) :
    p.dst ∉ taken ∧ f.countP (Fresh p.dst) = 0 ∧ ¬ Holds origin ⟨p ::ₘ f, taken, sent⟩ p.dst := by
  have honce := h.once p.dst
  have hfresh : Fresh p.dst p := ⟨rfl, hnew⟩
  rw [Multiset.countP_cons_of_pos f hfresh] at honce
  dsimp only at honce
  have hnot : p.dst ∉ taken := by
    intro hmem
    have hpos := List.count_pos_iff.mpr hmem
    omega
  refine ⟨hnot, by omega, ?_⟩
  rintro (horigin | hmem)
  · exact hnew (horigin ▸ (h.underway p (Multiset.mem_cons_self p f)).ends_mem.1)
  · exact hnot hmem

/-- A node takes a parcel, and sends parcels to these neighbours. -/
theorem Inv.take (h : Inv G origin opens passes ⟨p ::ₘ f, taken, sent⟩) (hG : G.IsAcyclic)
    (hnew : p.dst ∉ p.trail) (hws : Targets G passes p.dst (some p.src) ws) :
    Inv G origin opens passes ⟨f + parcels p.dst (p.trail ++ [p.dst]) ws, p.dst :: taken,
      sent ++ ws.map fun w => (p.dst, w)⟩ := by
  have hway := h.underway p (Multiset.mem_cons_self p f)
  have hleads := hway.leads hnew
  obtain ⟨hnot, hzero, hsilent⟩ := h.first hnew
  obtain ⟨w, hw, htrail⟩ := hway.extend hnew
  have hsub : taken ⊆ p.dst :: taken := fun _ => List.mem_cons_of_mem _
  -- a new parcel that is fresh was not there before
  have hahead : ∀ {x}, x ∈ ws → x ∉ p.trail ++ [p.dst] → Leads G origin p.dst x := by
    intro x hx hout
    exact ⟨hws.adj x hx, w, hw, by rw [← htrail]; exact hout⟩
  refine ⟨fun q hq => ?_, fun v hv => ?_, fun v => ?_, fun e he => ?_, ?_, fun u v hu hpass hl ho => ?_⟩
  · rcases Multiset.mem_add.mp hq with hq | hq
    · exact (h.underway q (Multiset.mem_cons_of_mem hq)).mono hsub
    · obtain ⟨x, hx, rfl⟩ := mem_parcels.mp (Multiset.mem_coe.mp hq)
      exact ⟨hws.adj x hx, ⟨w, hw, htrail⟩, Or.inr (List.mem_cons_self ..)⟩
  · rcases List.mem_cons.mp hv with rfl | hv
    · exact ⟨p.src, hway.holds.mono hsub, hleads⟩
    · obtain ⟨u, hu, hl⟩ := h.source v hv
      exact ⟨u, hu.mono hsub, hl⟩
  · have honce := h.once v
    have hle := countP_parcels_le hws.nodup p.dst (p.trail ++ [p.dst]) v
    rw [Multiset.countP_cons] at honce
    dsimp only at honce ⊢
    rw [Multiset.countP_add, Multiset.coe_countP, List.count_cons]
    by_cases hv : v = p.dst
    · -- the node itself: its parcel is gone, and the new ones have passed it
      subst hv
      have hnone : (parcels p.dst (p.trail ++ [p.dst]) ws).countP (Fresh p.dst) = 0 := by
        rw [List.countP_eq_zero]
        intro q hq
        obtain ⟨x, -, rfl⟩ := mem_parcels.mp hq
        simp [Fresh]
      rw [hnone, hzero, List.count_eq_zero.mpr hnot]
      simp
    · have hother : (p.dst == v) = false := beq_false_of_ne (Ne.symm hv)
      rw [hother, if_neg Bool.false_ne_true]
      rcases Nat.eq_zero_or_pos ((parcels p.dst (p.trail ++ [p.dst]) ws).countP (Fresh v)) with
        hnone | hpos
      · omega
      · -- a new parcel for the node: it has none, and none is coming
        obtain ⟨q, hq, hfresh⟩ := List.countP_pos_iff.mp hpos
        obtain ⟨x, hx, rfl⟩ := mem_parcels.mp hq
        obtain ⟨rfl, hout⟩ := of_decide_eq_true hfresh
        have hnobody : ¬ (x ∈ taken ∨ ∃ q ∈ p ::ₘ f, Fresh x q) := fun hany =>
          hsilent (h.sender hG (hahead hx hout) hany)
        have htaken : taken.count x = 0 :=
          List.count_eq_zero.mpr fun hmem => hnobody (Or.inl hmem)
        have hflight : f.countP (Fresh x) = 0 := Multiset.countP_eq_zero.mpr fun q hq hfr =>
          hnobody (Or.inr ⟨q, Multiset.mem_cons_of_mem hq, hfr⟩)
        dsimp only at *
        omega
  · rcases List.mem_append.mp he with he | he
    · exact (h.senders e he).mono hsub
    · obtain ⟨x, -, rfl⟩ := List.mem_map.mp he
      exact Or.inr (List.mem_cons_self ..)
  · refine List.nodup_append.mpr ⟨h.sent, hws.nodup.map fun _ _ heq => (Prod.mk.inj heq).2, ?_⟩
    rintro e he e' he' rfl
    obtain ⟨x, -, rfl⟩ := List.mem_map.mp he'
    exact hsilent (h.senders _ he)
  · by_cases hu' : u = p.dst
    · -- the node itself sends to every node that it leads to
      subst hu'
      have hback : v ∉ p.trail ++ [p.dst] := by
        obtain ⟨-, w', hw', hout⟩ := hl
        have hsame := congrArg Subtype.val ((hG.subsingleton_path origin p.dst).elim
          ⟨w, hw⟩ ⟨w', hw'⟩)
        rw [htrail, show w = w' from hsame]
        exact hout
      have hne : some v ≠ some p.src := by
        rintro ⟨⟩
        exact hback (List.mem_append_left _ hway.ends_mem.2)
      refine Or.inr ⟨⟨p.dst, v, p.trail ++ [p.dst]⟩, ?_, rfl, hback⟩
      exact Multiset.mem_add.mpr (Or.inr (mem_parcels.mpr ⟨v, hws.all hpass v hl.1 hne, rfl⟩))
    · have hold : Holds origin ⟨p ::ₘ f, taken, sent⟩ u :=
        hu.imp_right fun hmem => (List.mem_cons.mp hmem).resolve_left hu'
      rcases h.served u v hold hpass hl ho with htaken | ⟨q, hq, hfresh⟩
      · exact Or.inl (hsub htaken)
      · rcases Multiset.mem_cons.mp hq with rfl | hq
        · exact Or.inl (hfresh.1 ▸ List.mem_cons_self ..)
        · exact Or.inr ⟨q, Multiset.mem_add.mpr (Or.inl hq), hfresh⟩

/-- Every delivery keeps the invariant. -/
theorem Inv.step {s' : State ι} (h : Inv G origin opens passes s) (hG : G.IsAcyclic)
    (hstep : Step G opens passes s s') : Inv G origin opens passes s' := by
  cases hstep with
  | drop hlost => exact h.drop hG hlost
  | take hnew hws => exact h.take hG hnew hws

end

/-! ### Parents -/

/-- Where every node but some roots has a parent that is less deep, there are no cycles. -/
theorem isAcyclic_of_parents {G : SimpleGraph ι} {parentOf : ι → Option ι} {depth : ι → ℕ}
    (hadj : ∀ u v, G.Adj u v → parentOf u = some v ∨ parentOf v = some u)
    (hdepth : ∀ u v, parentOf u = some v → depth v < depth u) : G.IsAcyclic := by
  classical
  intro v c hc
  -- the deepest node of a cycle has two neighbours on it, and both are its parent
  obtain ⟨x, hx, hmax⟩ := Finset.exists_max_image c.support.toFinset depth
    ⟨v, List.mem_toFinset.mpr c.start_mem_support⟩
  rw [List.mem_toFinset] at hx
  have hcycle : (c.rotate x hx).IsCycle := (SimpleGraph.Walk.isCycle_rotate hx).mpr hc
  have hparent : ∀ u, G.Adj x u → u ∈ (c.rotate x hx).support → parentOf x = some u := by
    intro u hu hmem
    rcases hadj x u hu with h | h
    · exact h
    · have hle := hmax u (List.mem_toFinset.mpr
        ((SimpleGraph.Walk.mem_support_rotate_iff c x hx).mp hmem))
      have hlt := hdepth u x h
      omega
  have hsnd := hparent _ (SimpleGraph.Walk.adj_snd hcycle.not_nil)
    (SimpleGraph.Walk.getVert_mem_support _ _)
  have hlast := hparent _ (SimpleGraph.Walk.adj_penultimate hcycle.not_nil).symm
    (SimpleGraph.Walk.getVert_mem_support _ _)
  exact hcycle.snd_ne_penultimate (Option.some.inj (hsnd.symm.trans hlast))

end TreeFlood
