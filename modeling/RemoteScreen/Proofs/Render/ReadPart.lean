import RemoteScreen.Proofs.Render.Mirror

/-! What a rendering reads of a descriptor, and what follows from that alone: the nodes that are
shown, the regions of the cards, and the lines for nodes that are not accepted. Nothing that is read
is lost: nodes compare equal only if the same was read for them. -/
namespace RemoteScreen

/-- What is read of one node. The form says the type; a node that is not accepted where it stands is
read no further than its type. -/
inductive ReadPart where
  | card (id name description url : String)
  | stat (id label value : String)
  | button (id title : String)
  | carousel (id title : String) (children : List ReadPart)
  | hscroll (id title : String) (children : List ReadPart)
  | refused (id type : String)

namespace Descriptor

mutual

/-- What is read of a node that stands there: texts that are absent count as empty, but for the title
of a button. -/
def readPart (k : Container) : Descriptor → ReadPart
  | ⟨id, type, ps, cs⟩ =>
    if type = "planetCard" then
      .card id (Properties.get ps "name" "") (Properties.get ps "description" "")
        (Text.strip (Properties.get ps "imageUrl" ""))
    else if type = "galaxyStats" then
      .stat id (Properties.get ps "statName" "") (Text.firstLine (Properties.get ps "value" ""))
    else if type = "exploreButton" ∧ k = .root then
      .button id (Properties.get ps "title" "Explore")
    else if type = "carousel" then
      .carousel id (Properties.get ps "title" "") (readChildren .carousel cs)
    else if type = "hscroll" then
      .hscroll id (Properties.get ps "title" "") (readChildren .hscroll cs)
    else .refused id type

def readChildren (k : Container) : Option (List Descriptor) → List ReadPart
  | none => []
  | some ds => readParts k ds

def readParts (k : Container) : List Descriptor → List ReadPart
  | [] => []
  | d :: ds => readPart k d :: readParts k ds

end

@[simp] theorem readChildren_eq (k : Container) (cs : Option (List Descriptor)) :
    readChildren k cs = readParts k (cs.getD []) := by
  cases cs <;> rfl

section

variable (k : Container) (id : String) (ps : Properties) (cs : Option (List Descriptor))

theorem readPart_card : readPart k ⟨id, "planetCard", ps, cs⟩ =
    .card id (Properties.get ps "name" "") (Properties.get ps "description" "")
      (Text.strip (Properties.get ps "imageUrl" "")) := by
  simp [readPart]

theorem readPart_stat : readPart k ⟨id, "galaxyStats", ps, cs⟩ =
    .stat id (Properties.get ps "statName" "") (Text.firstLine (Properties.get ps "value" "")) := by
  simp [readPart]

theorem readPart_button : readPart .root ⟨id, "exploreButton", ps, cs⟩ =
    .button id (Properties.get ps "title" "Explore") := by
  simp [readPart]

theorem readPart_carousel : readPart k ⟨id, "carousel", ps, cs⟩ =
    .carousel id (Properties.get ps "title" "") (readParts .carousel (cs.getD [])) := by
  simp [readPart]

theorem readPart_hscroll : readPart k ⟨id, "hscroll", ps, cs⟩ =
    .hscroll id (Properties.get ps "title" "") (readParts .hscroll (cs.getD [])) := by
  simp [readPart]

end

theorem readPart_refused {k : Container} {d : Descriptor} (h : d.type ∉ k.types) :
    d.readPart k = .refused d.id d.type := by
  obtain ⟨id, type, ps, cs⟩ := d
  rw [readPart]
  cases k <;> simp_all [Container.types]

end Descriptor

namespace ReadPart

mutual

/-- The URLs of the cards, in pre-order. -/
def urls : ReadPart → List String
  | card _ _ _ url => [url]
  | carousel _ _ ps => urlsList ps
  | hscroll _ _ ps => urlsList ps
  | _ => []

def urlsList : List ReadPart → List String
  | [] => []
  | p :: ps => urls p ++ urlsList ps

end

mutual

/-- The lines for the nodes that are not accepted, in pre-order. -/
def lines (depth : Nat) : ReadPart → List Record
  | carousel _ _ ps => linesList (depth + 1) ps
  | hscroll _ _ ps => linesList (depth + 1) ps
  | refused id type => [⟨.debug, partLogger "render",
      s!"Fallback render id={id} type={Text.quote type} depth={depth}"⟩]
  | _ => []

def linesList (depth : Nat) : List ReadPart → List Record
  | [] => []
  | p :: ps => lines depth p ++ linesList depth ps

end

/-- How wide a node is in a row. -/
def width : ReadPart → Int
  | stat .. => 200
  | refused .. => 200
  | _ => 250

section

variable (sink : Sink)

mutual

/-- What a node is shown as there. Its cards have regions one after the other, from `n` on. -/
def drawn (k : Container) (n : Nat) : ReadPart → Renderable
  | card id name description _ => .card id name description n
  | stat id label value => .stat id label value 1
  | button id title => .action id title (some sink)
  | carousel id title ps => .carousel id title (drawnList .carousel n ps) 300
  | hscroll id title ps => .hscroll id title (drawnSlots n ps) 15
  | refused id type => .unknown id type k.message

def drawnList (k : Container) (n : Nat) : List ReadPart → List Renderable
  | [] => []
  | p :: ps => drawn k n p :: drawnList k (n + (urls p).length) ps

def drawnSlots (n : Nat) : List ReadPart → List (Slot Renderable)
  | [] => []
  | p :: ps => ⟨width p, drawn .hscroll n p⟩ :: drawnSlots (n + (urls p).length) ps

end

@[simp] theorem contents_drawnSlots (n : Nat) (ps : List ReadPart) :
    (drawnSlots sink n ps).map Slot.content = drawnList sink .hscroll n ps := by
  induction ps generalizing n with
  | nil => rfl
  | cons p ps ih => simp [drawnSlots, drawnList, ih]

end

/-- The region that a card has when it is made, as long as nobody has its image. -/
def regionFor (url : String) : Region Nat :=
  { url, state := if url = "" then .failed else .loading }

/-- What two regions are compared by. -/
def looked (gs : List (Region Nat)) (n : Nat) : Option (String × ImageState) :=
  gs[n]?.map fun g => (g.url, g.state)

/-- From number `n` on, the regions are those of cards with these URLs. -/
def Placed (gs : List (Region Nat)) (n : Nat) (us : List String) : Prop :=
  ∀ i url, us[i]? = some url → looked gs (n + i) = some (url, (regionFor url).state)

variable {gs : List (Region Nat)} {n m : Nat} {us vs : List String}

theorem Placed.of_append (rs : List (Region Nat)) (us : List String) :
    Placed (rs ++ us.map regionFor) rs.length us := by
  intro i url hi
  have hat : (rs ++ us.map regionFor)[rs.length + i]? = some (regionFor url) := by
    simp [List.getElem?_append_right, hi]
  rw [looked, hat]
  rfl

/-- Who listens to the regions does not matter. -/
theorem Placed.kept {υ : Type} {s t : Session υ} (h : Placed s.regions n us)
    (hkept : Session.RegionsKept s t) : Placed t.regions n us := by
  intro i url hi
  obtain ⟨g, hg, hlook⟩ := Option.map_eq_some_iff.1 (h i url hi)
  obtain ⟨ls, ht⟩ := hkept _ g hg
  rw [looked, ht]
  exact congrArg some hlook

theorem Placed.left (h : Placed gs n (us ++ vs)) : Placed gs n us := by
  intro i url hi
  refine h i url ?_
  rw [List.getElem?_append_left (List.getElem?_eq_some_iff.1 hi).1]
  exact hi

theorem Placed.right (h : Placed gs n (us ++ vs)) : Placed gs (n + us.length) vs := by
  intro i url hi
  rw [Nat.add_assoc]
  refine h (us.length + i) url ?_
  rw [List.getElem?_append_right (by omega), Nat.add_sub_cancel_left]
  exact hi

theorem Placed.head {url : String} (h : Placed gs n [url]) :
    looked gs n = some (url, (regionFor url).state) :=
  h 0 url rfl

theorem looked_beq_iff {url url' : String} (h : Placed gs n [url]) (h' : Placed gs m [url']) :
    (looked gs n == looked gs m) = true ↔ url = url' := by
  rw [h.head, h'.head, beq_iff_eq, Option.some.injEq, Prod.mk.injEq]
  constructor
  · exact fun h => h.1
  · rintro rfl
    exact ⟨rfl, rfl⟩

section

variable {sink : Sink}

mutual

/-- Nodes compare equal exactly if the same was read for them. -/
theorem same_drawn_iff {k : Container} : ∀ (p q : ReadPart) {n m : Nat},
    Placed gs n (urls p) → Placed gs m (urls q) →
      (Renderable.same (looked gs) (drawn sink k n p) (drawn sink k m q) = true ↔ p = q)
  | .card .., q, _, _, hp, hq => by
    cases q with
    | card => simp [drawn, Renderable.same, looked_beq_iff hp hq, and_assoc]
    | _ => simp [drawn, Renderable.same]
  | .stat .., q, _, _, _, _ => by
    cases q with
    | stat => simp [drawn, Renderable.same, and_assoc]
    | _ => simp [drawn, Renderable.same]
  | .button .., q, _, _, _, _ => by
    cases q with
    | button => simp [drawn, Renderable.same]
    | _ => simp [drawn, Renderable.same]
  | .carousel _ _ ps, q, n, m, hp, hq => by
    cases q with
    | carousel _ _ qs =>
      have hbelow := sameList_drawn_iff (k := .carousel) ps qs hp hq
      simp [drawn, Renderable.same, hbelow, and_assoc]
    | _ => simp [drawn, Renderable.same]
  | .hscroll _ _ ps, q, n, m, hp, hq => by
    cases q with
    | hscroll _ _ qs =>
      have hbelow := sameSlots_drawn_iff ps qs hp hq
      simp [drawn, Renderable.same, hbelow, and_assoc]
    | _ => simp [drawn, Renderable.same]
  | .refused .., q, _, _, _, _ => by
    cases q with
    | refused => simp [drawn, Renderable.same]
    | _ => simp [drawn, Renderable.same]

theorem sameList_drawn_iff {k : Container} : ∀ (ps qs : List ReadPart) {n m : Nat},
    Placed gs n (urlsList ps) → Placed gs m (urlsList qs) →
      (Renderable.sameList (looked gs) (drawnList sink k n ps) (drawnList sink k m qs) = true ↔
        ps = qs)
  | [], [], _, _, _, _ => by simp [drawnList, Renderable.sameList]
  | [], _ :: _, _, _, _, _ => by simp [drawnList, Renderable.sameList]
  | _ :: _, [], _, _, _, _ => by simp [drawnList, Renderable.sameList]
  | p :: ps, q :: qs, n, m, hp, hq => by
    have hfirst := same_drawn_iff (k := k) p q hp.left hq.left
    have hothers := sameList_drawn_iff (k := k) ps qs hp.right hq.right
    simp [drawnList, Renderable.sameList, hfirst, hothers]

theorem sameSlots_drawn_iff : ∀ (ps qs : List ReadPart) {n m : Nat}, Placed gs n (urlsList ps) →
    Placed gs m (urlsList qs) →
      (Renderable.sameSlots (looked gs) (drawnSlots sink n ps) (drawnSlots sink m qs) = true ↔
        ps = qs)
  | [], [], _, _, _, _ => by simp [drawnSlots, Renderable.sameSlots]
  | [], _ :: _, _, _, _, _ => by simp [drawnSlots, Renderable.sameSlots]
  | _ :: _, [], _, _, _, _ => by simp [drawnSlots, Renderable.sameSlots]
  | p :: ps, q :: qs, n, m, hp, hq => by
    have hfirst := same_drawn_iff (k := .hscroll) p q hp.left hq.left
    have hothers := sameSlots_drawn_iff ps qs hp.right hq.right
    simp only [drawnSlots, Renderable.sameSlots, Bool.and_eq_true, beq_iff_eq, hfirst, hothers,
      List.cons.injEq]
    constructor
    · exact fun h => ⟨h.1.2, h.2⟩
    · rintro ⟨rfl, rfl⟩
      exact ⟨⟨rfl, rfl⟩, rfl⟩

end

end

end ReadPart
end RemoteScreen
