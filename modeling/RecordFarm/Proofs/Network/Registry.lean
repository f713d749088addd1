import Mathlib.Logic.ExistsUnique
import RecordFarm.Proofs.Network.Reconnects
import RecordFarm.Proofs.Network.Sockets

/-!
# Who is bound where

Sockets give their addresses up by name, so it has to be shown that a name is never somebody else's.
In a hall, guests open sockets in all six ways, at any addresses, send and receive with them, and
drop them, in any order. A guest that is bound is its own *home*, and one that is connected has its
home with the guest that had bound the address by then.

After any moves (`Hall.Orderly`), an address is bound exactly if one guest has bound it who is still
there, and it leads to the channel of this guest. Two guests have one channel exactly if they have
one home. So, when an address has been bound again, those who were connected before keep to the
channel of their old home: all mail is accounted for home by home (`registry_orderly`).
-/

namespace RecordFarm

/-- A socket that was opened, and the number of the guest with whom it has its home. -/
structure Guest where
  socket : Socket
  home : Nat
  live : Bool := true
  deriving DecidableEq

/-- Frames that were sent or received: by which guest of which home, and in which lane. -/
structure Letter where
  guest : Nat
  home : Nat
  lane : Lane
  frames : Frames
  deriving DecidableEq, Repr

def framesOf (letters : List Letter) (home : Nat) (lane : Lane) : List Frames :=
  (letters.filter fun l => l.home = home ∧ l.lane = lane).map (·.frames)

/-- A network, the sockets that were ever opened in it, and what was sent and received by them. -/
structure Hall where
  net : Network
  guests : List Guest := []
  sent : List Letter := []
  got : List Letter := []

namespace Hall

/-- What guests do. They are told by their numbers. -/
inductive Move where
  | enter (way : Way) (uri : String)
  | leave (k : Nat)
  | say (k : Nat) (to? : Option ClientId) (frames : Frames)
  | hear (k : Nat)

/-- The guest who has bound an address and is still there. -/
def ownerOf (hall : Hall) (uri : String) : Nat :=
  hall.guests.findIdx fun guest =>
    guest.live && guest.socket.isBinder && decide (guest.socket.uri = uri)

def joined (hall : Hall) (net : Network) (socket : Socket) (home : Nat) : Hall :=
  { hall with net, guests := hall.guests ++ [{ socket, home }] }

def parted (hall : Hall) (k : Nat) (socket : Socket) (home : Nat) : Hall :=
  { hall with
    net := socket.close hall.net
    guests := hall.guests.set k { socket, home, live := false } }

/-- Makes a move. What fails or would have to wait changes nothing, and guests who have left do
nothing any more. -/
def step (hall : Hall) : Move → Hall
  | .enter way uri =>
    match way.attempt hall.net uri with
    | .done socket net =>
      hall.joined net socket (if socket.isBinder then hall.guests.length else hall.ownerOf uri)
    | _ => hall
  | .leave k =>
    match hall.guests[k]? with
    | some ⟨socket, home, true⟩ => hall.parted k socket home
    | _ => hall
  | .say k to? frames =>
    match hall.guests[k]? with
    | some ⟨socket, home, true⟩ =>
      match socket.say to? frames hall.net with
      | .done lane net => { hall with net, sent := hall.sent ++ [⟨k, home, lane, frames⟩] }
      | _ => hall
    | _ => hall
  | .hear k =>
    match hall.guests[k]? with
    | some ⟨socket, home, true⟩ =>
      match socket.hear hall.net with
      | .done (lane, frames) net => { hall with net, got := hall.got ++ [⟨k, home, lane, frames⟩] }
      | _ => hall
    | _ => hall

def after (hall : Hall) (moves : List Move) : Hall := moves.foldl step hall

/-- The guest with this number has this socket and this home, and may have left. -/
def Seats (hall : Hall) (k : Nat) (socket : Socket) (home : Nat) : Prop :=
  ∃ live, hall.guests[k]? = some ⟨socket, home, live⟩

/-- The guest with this number has bound the address and is still there. -/
def Owns (hall : Hall) (k : Nat) (uri : String) (socket : Socket) : Prop :=
  ∃ home, hall.guests[k]? = some ⟨socket, home, true⟩ ∧ socket.isBinder = true ∧ socket.uri = uri

/-- What is true of every hall. -/
structure Tidy (hall : Hall) : Prop where
  has : ∀ k socket home, hall.Seats k socket home → hall.net.Has socket.channel
  homes : ∀ k socket home, hall.Seats k socket home → ∃ host, hall.Seats home host home ∧
    host.isBinder = true ∧ host.endpoint = socket.endpoint ∧ host.uri = socket.uri
  own : ∀ k socket home, hall.Seats k socket home → socket.isBinder = true → home = k
  distinct : ∀ j k socket socket', hall.Seats j socket j → hall.Seats k socket' k →
    socket.channel = socket'.channel → j = k
  found : ∀ uri e, hall.net.lookup uri = some e ↔ ∃ k socket, hall.Owns k uri socket ∧
    socket.endpoint = e
  single : ∀ j k uri socket socket', hall.Owns j uri socket → hall.Owns k uri socket' → j = k
  sent : ∀ l ∈ hall.sent, ∃ socket, hall.Seats l.guest socket l.home
  got : ∀ l ∈ hall.got, ∃ socket, hall.Seats l.guest socket l.home
  mail : ∀ k socket, hall.Seats k socket k → ∀ lane,
    (framesOf hall.got k lane ++ hall.net.mail socket.channel lane).Sublist
      (framesOf hall.sent k lane)
  settled : ∀ k uri socket, hall.Owns k uri socket → ∀ lane,
    framesOf hall.got k lane ++ hall.net.mail socket.channel lane = framesOf hall.sent k lane

variable {hall : Hall} {k home : Nat} {socket : Socket} {uri : String} {lane : Lane}
  {frames : Frames} {net' : Network}

/-- A guest has one seat only. -/
theorem Seats.unique {socket' : Socket} {home' : Nat} (h : hall.Seats k socket home)
    (h' : hall.Seats k socket' home') : socket' = socket ∧ home' = home := by
  obtain ⟨live, here⟩ := h
  obtain ⟨live', here'⟩ := h'
  cases here.symm.trans here'
  exact ⟨rfl, rfl⟩

theorem Seats.lt (h : hall.Seats k socket home) : k < hall.guests.length := by
  obtain ⟨live, here⟩ := h
  exact (List.getElem?_eq_some_iff.1 here).1

/-- Only who binds owns an address. -/
theorem Owns.bound (h : hall.Owns k uri socket) : socket.isBinder = true := by
  obtain ⟨home, -, bound, -⟩ := h
  exact bound

theorem Owns.named (h : hall.Owns k uri socket) : socket.uri = uri := by
  obtain ⟨home, -, -, named⟩ := h
  exact named

namespace Tidy

/-- A guest who has bound an address is its own home. -/
theorem seats (tidy : hall.Tidy) (h : hall.Owns k uri socket) : hall.Seats k socket k := by
  obtain ⟨home, here, binder, -⟩ := h
  obtain rfl := tidy.own k socket home ⟨true, here⟩ binder
  exact ⟨true, here⟩

theorem start (limits : Limits) : Tidy { net := { limits } } where
  has := fun _ _ _ ⟨_, h⟩ => nomatch h
  homes := fun _ _ _ ⟨_, h⟩ => nomatch h
  own := fun _ _ _ ⟨_, h⟩ => nomatch h
  distinct := fun _ _ _ _ ⟨_, h⟩ => nomatch h
  found := fun _ _ => ⟨nofun, fun ⟨_, _, ⟨_, h, _⟩, _⟩ => nomatch h⟩
  single := fun _ _ _ _ _ ⟨_, h, _⟩ => nomatch h
  sent := fun _ h => nomatch h
  got := fun _ h => nomatch h
  mail := fun _ _ ⟨_, h⟩ => nomatch h
  settled := fun _ _ _ ⟨_, h, _⟩ => nomatch h

/-! ## Letters -/

/-- A letter more counts in its own home and lane. -/
theorem framesOf_snoc (letters : List Letter) (l : Letter) (home : Nat) (lane : Lane) :
    framesOf (letters ++ [l]) home lane = framesOf letters home lane ++
      if l.home = home ∧ l.lane = lane then [l.frames] else [] := by
  unfold framesOf
  rw [List.filter_append, List.map_append]
  by_cases h : l.home = home ∧ l.lane = lane <;> simp [h]

/-- Whoever has his home with somebody uses his channel, and nobody else does. -/
theorem home_eq_iff (tidy : hall.Tidy) {host : Socket} {j : Nat} (h : hall.Seats j host j)
    (seat : hall.Seats k socket home) : home = j ↔ host.channel = socket.channel := by
  obtain ⟨own, seat', binder, same, -⟩ := tidy.homes k socket home seat
  have here : own.channel = socket.channel := congrArg Endpoint.channel same
  constructor
  · rintro rfl
    rw [(h.unique seat').1] at here
    exact here
  · intro there
    exact tidy.distinct home j own host seat' h (here.trans there.symm)

theorem letters_snoc {letters : List Letter}
    (h : ∀ l ∈ letters, ∃ socket, hall.Seats l.guest socket l.home)
    (seat : hall.Seats k socket home) (lane : Lane) (frames : Frames) :
    ∀ l ∈ letters ++ [⟨k, home, lane, frames⟩], ∃ socket, hall.Seats l.guest socket l.home := by
  intro l hl
  rcases List.mem_append.1 hl with old | new
  · exact h l old
  · rw [List.mem_singleton.1 new]
    exact ⟨socket, seat⟩

/-- What waits for a guest with a home, when something was laid there. -/
theorem mail_lays (tidy : hall.Tidy) (seat : hall.Seats k socket home) {after : Mailbox}
    (lays : hall.net.Lays net' socket.channel lane after) {j : Nat} {host : Socket}
    (seat' : hall.Seats j host j) (lane' : Lane) :
    net'.mail host.channel lane'
      = if home = j ∧ lane = lane' then after else hall.net.mail host.channel lane' := by
  rw [lays.mail]
  exact if_congr (and_congr (tidy.home_eq_iff seat' seat).symm eq_comm) rfl rfl

/-- Frames that a guest sends are laid into the lane of his home. -/
theorem say (tidy : hall.Tidy) (seat : hall.Seats k socket home)
    (lays : hall.net.Lays net' socket.channel lane
      (hall.net.mail socket.channel lane ++ [frames])) :
    Tidy { hall with net := net', sent := hall.sent ++ [⟨k, home, lane, frames⟩] } := by
  have found : ∀ uri, net'.lookup uri = hall.net.lookup uri := fun uri => by
    unfold Network.lookup
    rw [lays.bound]
  -- What is sent and what waits grow alike.
  have grows : ∀ j host, hall.Seats j host j → ∀ lane', ∃ more,
      framesOf (hall.sent ++ [⟨k, home, lane, frames⟩]) j lane'
        = framesOf hall.sent j lane' ++ more ∧
      net'.mail host.channel lane' = hall.net.mail host.channel lane' ++ more := by
    intro j host seat' lane'
    refine ⟨_, framesOf_snoc .., ?_⟩
    rw [tidy.mail_lays seat lays seat']
    by_cases here : home = j ∧ lane = lane'
    · rw [if_pos here, if_pos here, (tidy.home_eq_iff seat' seat).1 here.1, here.2]
    · rw [if_neg here, if_neg here, List.append_nil]
  exact
    { has := fun j s h seat => (lays.has _).2 (tidy.has j s h seat)
      homes := tidy.homes
      own := tidy.own
      distinct := tidy.distinct
      found := fun uri e => by rw [found]; exact tidy.found uri e
      single := tidy.single
      sent := letters_snoc tidy.sent seat lane frames
      got := tidy.got
      mail := by
        intro j host seat' lane'
        obtain ⟨more, hsent, hmail⟩ := grows j host seat' lane'
        rw [hsent, hmail, ← List.append_assoc]
        exact (tidy.mail j host seat' lane').append_right more
      settled := by
        intro j uri host owns lane'
        obtain ⟨more, hsent, hmail⟩ := grows j host (tidy.seats owns) lane'
        rw [hsent, hmail, ← List.append_assoc]
        exact congrArg (· ++ more) (tidy.settled j uri host owns lane') }

/-- Frames that a guest receives have waited in the lane of his home. -/
theorem hear (tidy : hall.Tidy) (seat : hall.Seats k socket home) {rest : Mailbox}
    (waited : hall.net.mail socket.channel lane = frames :: rest)
    (lays : hall.net.Lays net' socket.channel lane rest) :
    Tidy { hall with net := net', got := hall.got ++ [⟨k, home, lane, frames⟩] } := by
  have found : ∀ uri, net'.lookup uri = hall.net.lookup uri := fun uri => by
    unfold Network.lookup
    rw [lays.bound]
  -- What was received and what waits is the same as before.
  have same : ∀ j host, hall.Seats j host j → ∀ lane',
      framesOf (hall.got ++ [⟨k, home, lane, frames⟩]) j lane' ++ net'.mail host.channel lane'
        = framesOf hall.got j lane' ++ hall.net.mail host.channel lane' := by
    intro j host seat' lane'
    rw [framesOf_snoc, tidy.mail_lays seat lays seat', List.append_assoc]
    by_cases here : home = j ∧ lane = lane'
    · rw [if_pos here, if_pos here, (tidy.home_eq_iff seat' seat).1 here.1, ← here.2, waited]
      rfl
    · rw [if_neg here, if_neg here, List.nil_append]
  exact
    { has := fun j s h seat => (lays.has _).2 (tidy.has j s h seat)
      homes := tidy.homes
      own := tidy.own
      distinct := tidy.distinct
      found := fun uri e => by rw [found]; exact tidy.found uri e
      single := tidy.single
      sent := tidy.sent
      got := letters_snoc tidy.got seat lane frames
      mail := fun j host seat' lane' => by
        rw [same j host seat']
        exact tidy.mail j host seat' lane'
      settled := fun j uri host owns lane' => by
        rw [same j host (tidy.seats owns)]
        exact tidy.settled j uri host owns lane' }

theorem mem_framesOf {letters : List Letter} {home : Nat} :
    frames ∈ framesOf letters home lane ↔
      ∃ l ∈ letters, l.home = home ∧ l.lane = lane ∧ l.frames = frames := by
  unfold framesOf
  simp only [List.mem_map, List.mem_filter, decide_eq_true_eq, and_assoc]

/-- Whatever was received had been sent from the same home. -/
theorem origin (tidy : hall.Tidy) {l : Letter} (hl : l ∈ hall.got) :
    ∃ l' ∈ hall.sent, l'.home = l.home ∧ l'.lane = l.lane ∧ l'.frames = l.frames := by
  obtain ⟨socket, seat⟩ := tidy.got l hl
  obtain ⟨host, hosted, -⟩ := tidy.homes _ _ _ seat
  have received : l.frames ∈ framesOf hall.got l.home l.lane :=
    mem_framesOf.2 ⟨l, hl, rfl, rfl, rfl⟩
  exact mem_framesOf.1
    ((tidy.mail _ host hosted l.lane).subset (List.mem_append_left _ received))

/-! ## Leaving -/

/-- A guest who leaves keeps his seat. -/
theorem seats_parted (here : hall.guests[k]? = some ⟨socket, home, true⟩)
    (j : Nat) (socket' : Socket) (home' : Nat) :
    (hall.parted k socket home).Seats j socket' home' ↔ hall.Seats j socket' home' := by
  have lt := (List.getElem?_eq_some_iff.1 here).1
  unfold Seats parted
  simp only
  by_cases own : k = j
  · subst own
    rw [List.getElem?_set_self lt, here]
    simp
  · rw [List.getElem?_set_ne own]

/-- Who has left owns nothing. -/
theorem owns_parted (here : hall.guests[k]? = some ⟨socket, home, true⟩)
    (j : Nat) (uri : String) (socket' : Socket) :
    (hall.parted k socket home).Owns j uri socket' ↔ hall.Owns j uri socket' ∧ j ≠ k := by
  have lt := (List.getElem?_eq_some_iff.1 here).1
  unfold Owns parted
  simp only
  by_cases own : k = j
  · subst own
    rw [List.getElem?_set_self lt]
    simp
  · rw [List.getElem?_set_ne own]
    simp [Ne.symm own]

/-- Whoever leaves takes along what he had bound, and nothing else. -/
theorem leave (tidy : hall.Tidy) (here : hall.guests[k]? = some ⟨socket, home, true⟩) :
    (hall.parted k socket home).Tidy := by
  have seat : hall.Seats k socket home := ⟨true, here⟩
  have seats := seats_parted here
  have owns := owns_parted here
  exact
    { has := fun j s h seat' => (socket.has_close _ _).2 (tidy.has j s h ((seats j s h).1 seat'))
      homes := by
        intro j s h seat'
        obtain ⟨host, hosted, same⟩ := tidy.homes j s h ((seats j s h).1 seat')
        exact ⟨host, (seats h host h).2 hosted, same⟩
      own := fun j s h seat' => tidy.own j s h ((seats j s h).1 seat')
      distinct := fun i j s t seat' seat'' =>
        tidy.distinct i j s t ((seats i s i).1 seat') ((seats j t j).1 seat'')
      found := by
        intro uri e
        show (socket.close hall.net).lookup uri = some e ↔ _
        rw [socket.lookup_close]
        by_cases his : socket.isBinder = true ∧ uri = socket.uri
        · -- The address that he owned leads nowhere now, and nobody else owned it.
          rw [if_pos his]
          have owner : hall.Owns k uri socket := ⟨home, here, his.1, his.2.symm⟩
          refine ⟨nofun, fun ⟨j, s, owns', _⟩ => ?_⟩
          obtain ⟨owns', other⟩ := (owns j uri s).1 owns'
          exact absurd (tidy.single j k uri s socket owns' owner) other
        · -- Any other address is owned by somebody who stays.
          rw [if_neg his, tidy.found]
          refine exists_congr fun j => exists_congr fun s => and_congr_left fun _ => ?_
          rw [owns, iff_self_and]
          rintro ⟨home', there, binder, named⟩ rfl
          cases here.symm.trans there
          exact his ⟨binder, named.symm⟩
      single := fun i j uri s t owns' owns'' =>
        tidy.single i j uri s t ((owns i uri s).1 owns').1 ((owns j uri t).1 owns'').1
      sent := fun l hl => (tidy.sent l hl).imp fun s => (seats _ s _).2
      got := fun l hl => (tidy.got l hl).imp fun s => (seats _ s _).2
      mail := by
        intro j host seat' lane
        have before := tidy.mail j host ((seats j host j).1 seat') lane
        rcases socket.mail_close hall.net host.channel lane with same | ⟨-, gone⟩
        · show (framesOf hall.got j lane ++ (socket.close hall.net).mail _ _).Sublist _
          rw [same]
          exact before
        · show (framesOf hall.got j lane ++ (socket.close hall.net).mail _ _).Sublist _
          rw [gone, List.append_nil]
          exact (List.sublist_append_left _ _).trans before
      settled := by
        intro j uri host owns' lane
        obtain ⟨owned, other⟩ := (owns j uri host).1 owns'
        have before := tidy.settled j uri host owned lane
        show framesOf hall.got j lane ++ (socket.close hall.net).mail _ _ = _
        rcases socket.mail_close hall.net host.channel lane with same | ⟨⟨binder, own⟩, -⟩
        · rw [same]
          exact before
        · -- Only the channel of a host can be emptied, and this one is another's.
          obtain rfl := tidy.own k socket home seat binder
          exact absurd (tidy.distinct j home host socket (tidy.seats owned) seat own) other }

/-! ## Entering -/

/-- Who joins takes a seat, and everybody keeps his. -/
theorem seats_joined (hall : Hall) (net : Network) (socket : Socket) (home j : Nat)
    (socket' : Socket) (home' : Nat) :
    (hall.joined net socket home).Seats j socket' home' ↔
      hall.Seats j socket' home' ∨ j = hall.guests.length ∧ socket' = socket ∧ home' = home := by
  unfold Seats joined
  simp only [getElem?_append_singleton_iff, exists_or]
  simp

/-- Who joins by binding owns the address, and everybody keeps his. -/
theorem owns_joined (hall : Hall) (net : Network) (socket : Socket) (home j : Nat) (uri : String)
    (socket' : Socket) :
    (hall.joined net socket home).Owns j uri socket' ↔
      hall.Owns j uri socket' ∨
        j = hall.guests.length ∧ socket' = socket ∧ socket.isBinder = true ∧ socket.uri = uri := by
  unfold Owns joined
  simp only [getElem?_append_singleton_iff, or_and_right, exists_or]
  refine or_congr Iff.rfl ⟨?_, ?_⟩
  · rintro ⟨home', ⟨rfl, same⟩, binder, named⟩
    cases same
    exact ⟨rfl, rfl, binder, named⟩
  · rintro ⟨rfl, rfl, binder, named⟩
    exact ⟨home, ⟨rfl, rfl⟩, binder, named⟩

/-- No letter is of a home that is not there yet. -/
theorem framesOf_eq_nil (tidy : hall.Tidy) {letters : List Letter}
    (h : ∀ l ∈ letters, ∃ socket, hall.Seats l.guest socket l.home) (lane : Lane) :
    framesOf letters hall.guests.length lane = [] := by
  unfold framesOf
  rw [List.map_eq_nil_iff, List.filter_eq_nil_iff]
  intro l hl here
  obtain ⟨socket, seat⟩ := h l hl
  obtain ⟨host, hosted, -⟩ := tidy.homes _ _ _ seat
  have lt := hosted.lt
  rw [(of_decide_eq_true here).1] at lt
  exact Nat.lt_irrefl _ lt

end Tidy

/-- A socket is opened in a hall, and this is its home. -/
structure Joins (hall : Hall) (net' : Network) (way : Way) (uri : String) (socket : Socket)
    (home : Nat) : Prop where
  opens : Opens hall.net net' way uri socket
  binds : socket.isBinder = true → home = hall.guests.length
  connects : socket.isBinder = false → ∃ host, hall.Owns home uri host ∧
    host.endpoint = socket.endpoint

namespace Joins

variable {way : Way}

/-- Whoever becomes his own home was bound. -/
theorem binder (joins : hall.Joins net' way uri socket home) (tidy : hall.Tidy)
    (own : home = hall.guests.length) : socket.isBinder = true := by
  by_contra connected
  obtain ⟨host, owned, -⟩ := joins.connects (Bool.eq_false_of_not_eq_true connected)
  have lt := (tidy.seats owned).lt
  rw [own] at lt
  exact Nat.lt_irrefl _ lt

/-- An address that can be bound has no owner. -/
theorem nobody (joins : hall.Joins net' way uri socket home) (tidy : hall.Tidy)
    (bound : socket.isBinder = true) (j : Nat) (host : Socket) : ¬ hall.Owns j uri host := by
  intro owned
  have hfound := (tidy.found uri host.endpoint).2 ⟨j, host, owned, rfl⟩
  cases (joins.opens.free bound).symm.trans hfound

/-- Nobody uses the channel of a socket that is bound. -/
theorem apart (joins : hall.Joins net' way uri socket home) (tidy : hall.Tidy)
    (bound : socket.isBinder = true) {j : Nat} {other : Socket} (seat : hall.Seats j other j) :
    other.channel ≠ socket.channel := by
  intro same
  exact joins.opens.fresh bound (same ▸ tidy.has j other j seat)

/-- With one guest more every address leads to its owner. -/
theorem found (joins : hall.Joins net' way uri socket home) (tidy : hall.Tidy) (other : String)
    (e : Endpoint) :
    net'.lookup other = some e ↔
      ∃ j s, (hall.joined net' socket home).Owns j other s ∧ s.endpoint = e := by
  have owns := Tidy.owns_joined hall net' socket home
  rw [joins.opens.lookup]
  by_cases here : other = uri
  · subst here
    rw [if_pos rfl, Option.some.injEq]
    constructor
    · rintro rfl
      cases bound : socket.isBinder with
      | true =>
        exact ⟨_, socket, (owns _ _ _).2 (Or.inr ⟨rfl, rfl, bound, joins.opens.named⟩), rfl⟩
      | false =>
        obtain ⟨host, owned, same⟩ := joins.connects bound
        exact ⟨home, host, (owns _ _ _).2 (Or.inl owned), same⟩
    · rintro ⟨j, s, owned, rfl⟩
      rcases (owns j other s).1 owned with old | ⟨-, rfl, -⟩
      · have hfound := (tidy.found other s.endpoint).2 ⟨j, s, old, rfl⟩
        cases bound : socket.isBinder with
        | true => exact absurd old (joins.nobody tidy bound j s)
        | false => exact Option.some.inj ((joins.opens.found bound).symm.trans hfound)
      · rfl
  · rw [if_neg here, tidy.found]
    refine exists_congr fun j => exists_congr fun s => and_congr_left fun _ => ?_
    rw [owns]
    exact (or_iff_left fun new => here (new.2.2.2.symm.trans joins.opens.named)).symm

/-- **A socket that is opened gets a seat, and a home.** -/
theorem tidy (joins : hall.Joins net' way uri socket home) (tidy : hall.Tidy) :
    (hall.joined net' socket home).Tidy := by
  have seats := Tidy.seats_joined hall net' socket home
  have owns := Tidy.owns_joined hall net' socket home
  exact
    { has := by
        intro j s h seat
        rcases (seats j s h).1 seat with old | ⟨rfl, rfl, rfl⟩
        · exact (joins.opens.has _).2 (Or.inl (tidy.has j s h old))
        · exact (joins.opens.has _).2 (Or.inr rfl)
      homes := by
        intro j s h seat
        rcases (seats j s h).1 seat with old | ⟨rfl, rfl, rfl⟩
        · obtain ⟨host, hosted, same⟩ := tidy.homes j s h old
          exact ⟨host, (seats h host h).2 (Or.inl hosted), same⟩
        · -- He is his own home, or has it with the owner of the address.
          cases bound : s.isBinder with
          | true =>
            exact ⟨s, (seats h s h).2 (Or.inr ⟨joins.binds bound, rfl, rfl⟩), bound, rfl, rfl⟩
          | false =>
            obtain ⟨host, owned, same⟩ := joins.connects bound
            exact ⟨host, (seats h host h).2 (Or.inl (tidy.seats owned)), owned.bound, same,
              owned.named.trans joins.opens.named.symm⟩
      own := by
        intro j s h seat bound
        rcases (seats j s h).1 seat with old | ⟨rfl, rfl, rfl⟩
        · exact tidy.own j s h old bound
        · exact joins.binds bound
      distinct := by
        intro i j s t seat seat' same
        -- The channel of a new host is nobody's yet.
        rcases (seats i s i).1 seat with old | ⟨rfl, rfl, own⟩ <;>
          rcases (seats j t j).1 seat' with old' | ⟨rfl, rfl, own'⟩
        · exact tidy.distinct i j s t old old' same
        · exact absurd same (joins.apart tidy (joins.binder tidy own'.symm) old)
        · exact absurd same.symm (joins.apart tidy (joins.binder tidy own.symm) old')
        · rfl
      found := joins.found tidy
      single := by
        intro i j other s t owned owned'
        rcases (owns i other s).1 owned with old | ⟨rfl, -, bound, rfl⟩ <;>
          rcases (owns j _ t).1 owned' with old' | ⟨rfl, -, bound', named'⟩
        · exact tidy.single i j other s t old old'
        · rw [← named', joins.opens.named] at old
          exact absurd old (joins.nobody tidy bound' i s)
        · rw [joins.opens.named] at old'
          exact absurd old' (joins.nobody tidy bound j t)
        · rfl
      sent := fun l hl => (tidy.sent l hl).imp fun s seat => (seats _ s _).2 (Or.inl seat)
      got := fun l hl => (tidy.got l hl).imp fun s seat => (seats _ s _).2 (Or.inl seat)
      mail := by
        intro j host seat lane
        show (framesOf hall.got j lane ++ net'.mail _ _).Sublist _
        rw [joins.opens.mail]
        rcases (seats j host j).1 seat with old | ⟨rfl, rfl, own⟩
        · exact tidy.mail j host old lane
        · -- Nothing waits for a new host, and nothing was ever sent to him.
          rw [tidy.framesOf_eq_nil tidy.got,
            Network.mail_eq_nil (joins.opens.fresh (joins.binder tidy own.symm))]
          exact List.nil_sublist _
      settled := by
        intro j other host owned lane
        show framesOf hall.got j lane ++ net'.mail _ _ = framesOf hall.sent j lane
        rw [joins.opens.mail]
        rcases (owns j other host).1 owned with old | ⟨rfl, rfl, bound, -⟩
        · exact tidy.settled j other host old lane
        · rw [tidy.framesOf_eq_nil tidy.got, tidy.framesOf_eq_nil tidy.sent,
            Network.mail_eq_nil (joins.opens.fresh bound)]
          rfl }

end Joins

namespace Tidy

/-! ## Moves -/

/-- Every address leads to a channel. -/
theorem placed (tidy : hall.Tidy) (uri : String) (e : Endpoint)
    (h : hall.net.lookup uri = some e) : hall.net.Has e.channel := by
  obtain ⟨k, socket, owns, rfl⟩ := (tidy.found uri e).1 h
  exact tidy.has k socket k (tidy.seats owns)

theorem ownerOf_eq (tidy : hall.Tidy) (owns : hall.Owns k uri socket) : hall.ownerOf uri = k := by
  obtain ⟨home, here, bound, named⟩ := owns
  have lt : hall.ownerOf uri < hall.guests.length :=
    List.findIdx_lt_length_of_exists ⟨_, List.mem_of_getElem? here, by simp [bound, named]⟩
  have holds := List.findIdx_getElem (w := lt)
  have there := List.getElem?_eq_getElem lt
  change (hall.guests[hall.ownerOf uri].live && hall.guests[hall.ownerOf uri].socket.isBinder &&
    decide (hall.guests[hall.ownerOf uri].socket.uri = uri)) = true at holds
  generalize hall.guests[hall.ownerOf uri] = guest at holds there
  obtain ⟨socket', home', live⟩ := guest
  rw [Bool.and_eq_true, Bool.and_eq_true, decide_eq_true_eq] at holds
  obtain ⟨⟨rfl, bound'⟩, named'⟩ := holds
  exact tidy.single _ _ uri socket' socket ⟨home', there, bound', named'⟩
    ⟨home, here, bound, named⟩

/-- **What entering comes to**, if it is not refused. -/
theorem joins (tidy : hall.Tidy) {way : Way}
    (h : way.refusal? uri (hall.net.lookup uri) = none) :
    ∃ socket net' home, way.attempt hall.net uri = .done socket net' ∧
      hall.step (.enter way uri) = hall.joined net' socket home ∧
      hall.Joins net' way uri socket home := by
  obtain ⟨socket, net', done, opens⟩ := Way.opens_of_refusal (tidy.placed uri) h
  refine ⟨socket, net', if socket.isBinder then hall.guests.length else hall.ownerOf uri, done,
    by simp only [Hall.step, done], opens, fun bound => if_pos bound, fun connected => ?_⟩
  obtain ⟨k, host, owns, same⟩ := (tidy.found uri _).1 (opens.found connected)
  rw [if_neg (by rw [connected]; exact Bool.false_ne_true), tidy.ownerOf_eq owns]
  exact ⟨host, owns, same⟩

/-- Who is refused does not come in. -/
theorem step_of_refusal {way : Way} {cause : TransportError}
    (h : way.refusal? uri (hall.net.lookup uri) = some cause) :
    hall.step (.enter way uri) = hall := by
  simp only [Hall.step, Way.attempt_of_refusal h]

/-- **Every move leaves a hall tidy.** -/
theorem step (tidy : hall.Tidy) (move : Move) : (hall.step move).Tidy := by
  cases move with
  | enter way uri =>
    cases h : way.refusal? uri (hall.net.lookup uri) with
    | some cause => rwa [step_of_refusal h]
    | none =>
      obtain ⟨socket, net', home, -, hstep, joins⟩ := tidy.joins h
      rw [hstep]
      exact joins.tidy tidy
  | leave k =>
    simp only [Hall.step]
    split
    · next socket home here => exact tidy.leave here
    · exact tidy
  | say k to? frames =>
    simp only [Hall.step]
    split
    · next socket home here =>
      split
      · next lane net' said => exact tidy.say ⟨true, here⟩ (Socket.lays_say said)
      · exact tidy
    · exact tidy
  | hear k =>
    simp only [Hall.step]
    split
    · next socket home here =>
      split
      · next lane frames net' heard =>
        obtain ⟨rest, waited, lays⟩ := Socket.lays_hear heard
        exact tidy.hear ⟨true, here⟩ waited lays
      · exact tidy
    · exact tidy

/-- However many moves are made, a hall stays tidy. Induction on the moves. -/
theorem after (tidy : hall.Tidy) (moves : List Move) : (hall.after moves).Tidy := by
  induction moves generalizing hall with
  | nil => exact tidy
  | cons move moves ih => exact ih (tidy.step move)

end Tidy

/-- How the registry and the mail of a hall stand to its guests. -/
structure Orderly (hall : Hall) : Prop where
  /-- An address is bound exactly if one guest has bound it and is still there. -/
  bound : ∀ uri, hall.net.isBound uri = true ↔ ∃! k, ∃ socket, hall.Owns k uri socket
  /-- It leads to what he bound. -/
  found : ∀ k uri socket, hall.Owns k uri socket →
    hall.net.lookup uri = some socket.endpoint
  /-- Who was bound is his own home, and who was connected has a home of his address, with a guest
  who has bound what he is connected to. -/
  homes : ∀ k socket home, hall.Seats k socket home → ∃ host, hall.Seats home host home ∧
    host.isBinder = true ∧ host.endpoint = socket.endpoint ∧ host.uri = socket.uri ∧
    (socket.isBinder = true → home = k)
  /-- Only those of one home share a channel. -/
  apart : ∀ j k socket socket' home home', hall.Seats j socket home → hall.Seats k socket' home' →
    (socket.channel = socket'.channel ↔ home = home')
  /-- Nobody can be refused but for three reasons, and then nothing changes. -/
  refuses : ∀ way uri cause, way.refusal? uri (hall.net.lookup uri) = some cause →
    way.attempt hall.net uri = .failed cause ∧ hall.step (.enter way uri) = hall
  /-- Whoever is not refused gets a seat. He owns the address from now on, or has his home with its
  owner; no other address is concerned. -/
  enters : ∀ way uri, way.refusal? uri (hall.net.lookup uri) = none →
    ∃ (socket : Socket) (home : Nat),
      way.attempt hall.net uri = .done socket (hall.step (.enter way uri)).net ∧
      (hall.step (.enter way uri)).guests = hall.guests ++ [⟨socket, home, true⟩] ∧
      socket.uri = uri ∧ socket.isBinder = way.wanted?.isNone ∧
      (socket.isBinder = true → home = hall.guests.length) ∧
      (socket.isBinder = false → ∃ host, hall.Owns home uri host) ∧
      ∀ other, other ≠ uri →
        (hall.step (.enter way uri)).net.lookup other = hall.net.lookup other
  /-- Whoever leaves frees the address that he owns, and no other one. -/
  leaves : ∀ k socket home, hall.guests[k]? = some ⟨socket, home, true⟩ → ∀ uri,
    (hall.step (.leave k)).net.lookup uri
      = if socket.isBinder = true ∧ uri = socket.uri then none else hall.net.lookup uri
  /-- Letters are sent and received by guests, for their homes. -/
  letters : ∀ l ∈ hall.sent ++ hall.got, ∃ socket, hall.Seats l.guest socket l.home
  /-- Nobody receives anything from another home than his own. -/
  origin : ∀ l ∈ hall.got, ∃ l' ∈ hall.sent,
    l'.home = l.home ∧ l'.lane = l.lane ∧ l'.frames = l.frames
  /-- Those of a home receive what those of this home have sent, in the order in which it was sent,
  and nothing else. -/
  mail : ∀ k socket, hall.Seats k socket k → ∀ lane,
    (framesOf hall.got k lane ++ hall.net.mail socket.channel lane).Sublist
      (framesOf hall.sent k lane)
  /-- As long as the host is there, nothing of it is lost. -/
  settled : ∀ k uri socket, hall.Owns k uri socket → ∀ lane,
    framesOf hall.got k lane ++ hall.net.mail socket.channel lane = framesOf hall.sent k lane

/-- What is tidy is orderly. -/
theorem Tidy.orderly (tidy : hall.Tidy) : hall.Orderly where
  bound := by
    intro uri
    unfold Network.isBound
    rw [Option.isSome_iff_exists]
    constructor
    · rintro ⟨e, hfound⟩
      obtain ⟨k, socket, owns, -⟩ := (tidy.found uri e).1 hfound
      exact ⟨k, ⟨socket, owns⟩, fun j ⟨other, owns'⟩ => tidy.single j k uri other socket owns' owns⟩
    · rintro ⟨k, ⟨socket, owns⟩, -⟩
      exact ⟨_, (tidy.found uri _).2 ⟨k, socket, owns, rfl⟩⟩
  found := fun k uri socket owns => (tidy.found uri _).2 ⟨k, socket, owns, rfl⟩
  homes := by
    intro k socket home seat
    obtain ⟨host, hosted, bound, same, named⟩ := tidy.homes k socket home seat
    exact ⟨host, hosted, bound, same, named, tidy.own k socket home seat⟩
  apart := by
    intro j k socket socket' home home' seat seat'
    obtain ⟨host, hosted, -, same, -⟩ := tidy.homes k socket' home' seat'
    rw [tidy.home_eq_iff hosted seat, show host.channel = socket'.channel from
      congrArg Endpoint.channel same, eq_comm]
  refuses := fun way uri cause h => ⟨Way.attempt_of_refusal h, Tidy.step_of_refusal h⟩
  enters := by
    intro way uri h
    obtain ⟨socket, net', home, done, hstep, joins⟩ := tidy.joins h
    rw [hstep]
    refine ⟨socket, home, done, rfl, joins.opens.named, joins.opens.binder, joins.binds,
      fun connected => ?_, fun other elsewhere => ?_⟩
    · obtain ⟨host, owns, -⟩ := joins.connects connected
      exact ⟨host, owns⟩
    · exact (joins.opens.lookup other).trans (if_neg elsewhere)
  leaves := by
    intro k socket home here uri
    have hstep : hall.step (.leave k) = hall.parted k socket home := by
      simp only [Hall.step, here]
    rw [hstep]
    exact socket.lookup_close hall.net uri
  letters := by
    intro l hl
    rcases List.mem_append.1 hl with sent | got
    · exact tidy.sent l sent
    · exact tidy.got l got
  origin := fun _ hl => tidy.origin hl
  mail := tidy.mail
  settled := tidy.settled

/-- **The registry follows the sockets.** Whatever sockets were opened, used and dropped, each law
of `Orderly` is true. A connected socket keeps to the channel of the host that it found: when this
host leaves and the address is bound again, the new host is another home, with another channel, and
nothing goes from one to the other. -/
theorem registry_orderly (limits : Limits) (moves : List Move) :
    (after { net := { limits } } moves).Orderly :=
  ((Tidy.start limits).after moves).orderly

/-- An address is bound twice, with another guest connected to it each time. The old one is heard no
more, and the new one is heard by the new host. -/
def rebound : List Move :=
  [.enter .bindPull "in", .enter .connectPush "in", .say 1 none [[1]], .leave 0,
    .enter .connectPush "in", .enter .bindPull "in", .enter .bindRouter "in",
    .enter .connectPull "in", .enter .connectPush "in", .say 1 none [[2]], .say 3 none [[3]],
    .hear 2, .hear 2]

/-- What was sent to the old host is not there for the new one. -/
theorem registry_orderly_rebound :
    let hall := after { net := { limits := ⟨4, 0, 0⟩ } } rebound
    hall.guests.map (·.home) = [0, 0, 2, 2] ∧
      hall.got = [⟨2, 2, .through, [[3]]⟩] ∧ hall.Orderly :=
  ⟨by decide +kernel, by decide +kernel, registry_orderly _ _⟩

end Hall

end RecordFarm
