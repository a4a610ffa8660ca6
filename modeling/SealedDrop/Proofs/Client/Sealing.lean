/-
  SealedDrop.Proofs.Client.Sealing
  ────────────────────────────────
  **NO SALT AND NO NONCE IS DRAWN TWICE.**

  `Envelope.wrapFresh` draws a salt and then a nonce, and nothing else draws from
  the `Entropy` of a client.  So a run cuts the stream into blocks, one for each
  text that is sealed in it, whether `Client.share` seals it or a direct call,
  and whatever becomes of the envelope:

      stream = block 0 ‖ block 1 ‖ block 2 ‖ …,   block k = salt k ‖ nonce k

  A decoded envelope starts with its block.  Base64 is injective, so envelopes
  of one run are the same text only if their blocks are the same octets.

  Main results:
    • `Entropy.draw_blocks` — what is drawn is the blocks one after the other,
    • `Envelope.startsWith_wrap` — an envelope starts with its block,
    • `carries_of_mem_deliver` — what a share sends carries what it sealed,
    • `madeIn_under` — the blocks of a run are used in order,
    • `blocks_serve_once` — what that means for its envelopes.
-/
import SealedDrop.Client.Operation
import SealedDrop.Proofs.Envelope

namespace SealedDrop

/-! ## §1. Blocks of the stream -/

namespace Entropy

/-- The `k`-th block of so many octets, counted from the first one that is not drawn yet. -/
def block (size : Nat) (e : Entropy) (k : Nat) : Bytes :=
  (List.range size).map fun i => e.octet (e.position + size * k + i)

/-- A block has its size. -/
theorem length_block (size : Nat) (e : Entropy) (k : Nat) : (e.block size k).length = size := by
  simp [block]

/-- The next octets are the first block. -/
theorem draw_eq_block (size : Nat) (e : Entropy) : (e.draw size).1 = e.block size 0 := rfl

/-- Once the first block is drawn, the others move up. -/
theorem block_draw (size : Nat) (e : Entropy) (k : Nat) :
    (e.draw size).2.block size k = e.block size (k + 1) := by
  unfold block
  rw [draw_position]
  refine List.map_congr_left fun i _ => ?_
  rw [Nat.mul_succ, Nat.add_assoc e.position, Nat.add_comm size]
  rfl

/-- Drawing twice gives what drawing once gives, one part behind the other. -/
theorem draw_add (m n : Nat) (e : Entropy) :
    (e.draw (m + n)).1 = (e.draw m).1 ++ ((e.draw m).2.draw n).1 := by
  unfold draw
  simp only [List.range_add, List.map_append, List.map_map, Function.comp_def, Nat.add_assoc]

/-- And leaves the source where drawing once leaves it. -/
theorem draw_draw (m n : Nat) (e : Entropy) : ((e.draw m).2.draw n).2 = (e.draw (m + n)).2 := by
  unfold draw
  simp only [Nat.add_assoc]

/-- **What is drawn is the blocks one after the other**, so no octet is in two of them. -/
theorem draw_blocks (size : Nat) (e : Entropy) (count : Nat) :
    (e.draw (size * count)).1 = (List.range count).flatMap (e.block size) := by
  induction count with
  | zero => rfl
  | succ count ih =>
    rw [Nat.mul_succ, draw_add, ih, List.range_succ, List.flatMap_append]
    congr 1
    simp [draw, block]

end Entropy

/-! ## §2. Envelopes and their blocks -/

namespace Envelope

/-- The octets that sealing draws: salt and nonce. -/
def blockSize : Nat := saltSize + nonceSize

/-- The block of the `k`-th text that is sealed. -/
def blockOf (e : Entropy) (k : Nat) : Bytes := e.block blockSize k

/-- An envelope decodes to octets that start with a block. -/
def StartsWith (envelope : Text) (b : Bytes) : Prop :=
  ∃ raw, Base64.decode? envelope = some raw ∧ raw.take blockSize = b

/-- An envelope starts with one salt and nonce. -/
theorem StartsWith.unique {envelope : Text} {b b' : Bytes} (h : StartsWith envelope b)
    (h' : StartsWith envelope b') : b = b' := by
  obtain ⟨raw, hraw, rfl⟩ := h
  obtain ⟨raw', hraw', rfl⟩ := h'
  rw [Option.some.inj (hraw.symm.trans hraw')]

/-- The first 28 octets are the salt and the nonce. -/
theorem take_blockSize (raw : Bytes) : raw.take blockSize = saltOf raw ++ nonceOf raw :=
  List.take_add

/-- **An envelope starts with the block that it is sealed under.** -/
theorem startsWith_wrap {b : Bytes} (hb : b.length = blockSize) {n : Int}
    {plaintext password envelope : Text}
    (h : wrap n (saltOf b) (nonceOf b) plaintext password = .ok envelope) :
    StartsWith envelope b := by
  obtain ⟨raw, rfl, _, hsalt, hnonce⟩ :=
    seals_of_wrap (length_saltOf (Nat.le_of_eq hb.symm)) (length_nonceOf (Nat.le_of_eq hb.symm)) h
  refine ⟨raw, Base64.decode?_encode raw, ?_⟩
  rw [take_blockSize, hsalt, hnonce, ← take_blockSize, ← hb, List.take_length]

/-- **A text is sealed under the next block.** -/
theorem wrapFresh_eq (n : Int) (plaintext password : Text) (e : Entropy) :
    wrapFresh n plaintext password e
      = (wrap n (saltOf (blockOf e 0)) (nonceOf (blockOf e 0)) plaintext password,
        (e.draw blockSize).2) := by
  have hblock : blockOf e 0
      = (e.draw saltSize).1 ++ ((e.draw saltSize).2.draw nonceSize).1 ++ [] := by
    unfold blockOf blockSize
    rw [List.append_nil, ← Entropy.draw_eq_block, Entropy.draw_add]
  have hs := e.length_draw saltSize
  have hn := (e.draw saltSize).2.length_draw nonceSize
  rw [hblock, saltOf_append hs, nonceOf_append hs hn]
  unfold wrapFresh
  dsimp only
  rw [Entropy.draw_draw]
  rfl

end Envelope

namespace Client

open Envelope
open Form (Document)

variable {σ : Type}

/-! ## §3. What a share sends -/

/-- An exchange carries an envelope: what was sent is the payload of a creation with it. -/
def Carries (y : Exchange) (envelope : Text) : Prop :=
  ∃ p, y.payload = some p ∧ ∃ q : Form.Creation, q.data = envelope ∧ Form.dump q = .ok p.payload

/-- What a share does with what was sealed. -/
def deliver (c : Client) (serve : Server σ) (s : σ) (d : Deposit) :
    Except KeyFault Text → Outcome σ Text
  | .error f => .unsent s (.noSealing f)
  | .ok data =>
    match c.author (Document.title Form.Creation) with
    | .error f => .unsent s f
    | .ok u =>
      (c.post serve s "/secret-sharing/create"
        (Form.Creation.mk u data d.expiresAt d.singleUse)).andThen fun j => .ok (textOf "id" j)

/-- **A share seals once, if there is a password, and delivers what was sealed.** -/
theorem share_eq_deliver (c : Client) (n : Int) (serve : Server σ) (s : σ) (d : Deposit)
    (e : Entropy) (hpassword : d.password.isEmpty = false) :
    c.share n serve s d e
      = (c.deliver serve s d (wrapFresh n d.plaintext d.password e).1,
        (wrapFresh n d.plaintext d.password e).2) := by
  unfold share
  rw [hpassword, if_neg (by simp)]
  -- how the envelope was made plays no part in what becomes of it
  generalize wrapFresh n d.plaintext d.password e = y
  obtain ⟨r, rest⟩ := y
  unfold deliver
  cases r with
  | error f => rfl
  | ok data =>
    dsimp only
    cases c.author (Document.title Form.Creation) with
    | error f => rfl
    | ok u => rfl

/-- A request is sent with one payload, wherever it is sent on. -/
theorem payload_of_mem_exchange {serve : Server σ} {host : Text}
    {payload : Option Form.SignedPayload} {n : Nat} {s : σ} {target : Text} {y : Exchange}
    (h : y ∈ (exchange serve host payload n s target).exchanges) : y.payload = payload := by
  -- along the redirects that are left
  induction n generalizing s target with
  | zero =>
    unfold exchange at h
    dsimp only at h
    split at h
    next => rw [List.mem_singleton.mp h]
    next => rw [List.mem_singleton.mp h]
  | succ n ih =>
    unfold exchange at h
    dsimp only at h
    split at h
    next => rw [List.mem_singleton.mp h]
    next =>
      rcases List.mem_cons.mp h with rfl | h
      · rfl
      · exact ih h

/-- Whatever a call sends carries the payload of the call. -/
theorem payload_of_mem_send {c : Client} {serve : Server σ} {s : σ} {path : Text}
    {payload : Option Form.SignedPayload} {y : Exchange}
    (h : y ∈ (c.send serve s path payload).exchanges) : y.payload = payload := by
  unfold send at h
  split at h
  next => cases h
  next => exact payload_of_mem_exchange h

/-- What a client signs is the dump of its request. -/
theorem dump_of_signed {α : Type} [Document α] {c : Client} {request : α} {p : Form.SignedPayload}
    (h : c.signed request = .ok p) : Form.dump request = .ok p.payload := by
  unfold signed at h
  split at h
  next =>
    split at h
    next => cases h
    next payload hdump =>
      split at h
      next => cases h
      next =>
        injection h with h
        subst h
        exact hdump
  next => cases h

/-- What is posted is the dump of a request. -/
theorem dump_of_mem_post {α : Type} [Document α] {c : Client} {serve : Server σ} {s : σ}
    {path : Text} {request : α} {y : Exchange} (h : y ∈ (c.post serve s path request).exchanges) :
    ∃ p, y.payload = some p ∧ Form.dump request = .ok p.payload := by
  unfold post at h
  split at h
  next => cases h
  next p hsigned => exact ⟨p, payload_of_mem_send h, dump_of_signed hsigned⟩

/-- **What a share sends carries what it sealed.** -/
theorem carries_of_mem_deliver {c : Client} {serve : Server σ} {s : σ} {d : Deposit}
    {r : Except KeyFault Text} {y : Exchange} (h : y ∈ (c.deliver serve s d r).exchanges) :
    ∃ envelope, r = .ok envelope ∧ Carries y envelope := by
  unfold deliver at h
  split at h
  next => cases h
  next data =>
    split at h
    next => cases h
    next =>
      obtain ⟨p, hp, hdump⟩ := dump_of_mem_post h
      exact ⟨data, rfl, p, hp, _, rfl, hdump⟩

/-! ## §4. Runs -/

/-- A call that may seal. -/
inductive Sealing (σ : Type) where
  /-- Sealing a text under a password. -/
  | direct (plaintext password : Text)
  /-- Sharing a secret through a client, with a server as it answers then. -/
  | share (c : Client) (serve : Server σ) (d : Deposit)

/-- A text that was sealed in a call, what came of it, and what the call sent. -/
structure Sealed where
  /-- The text. -/
  plaintext : Text
  /-- The password. -/
  password : Text
  /-- The envelope, or why there is none. -/
  envelope : Except KeyFault Text
  /-- What was sent, in order. -/
  exchanges : List Exchange

namespace Sealing

/-- The text that a call seals and the password; a share without a password seals nothing. -/
def input? : Sealing σ → Option (Text × Text)
  | .direct plaintext password => some (plaintext, password)
  | .share _ _ d => if d.password.isEmpty then none else some (d.plaintext, d.password)

/-- What a call sends. -/
def sends (n : Int) (s : σ) (e : Entropy) : Sealing σ → List Exchange
  | .direct _ _ => []
  | .share c serve d => (c.share n serve s d e).1.exchanges

/-- The server and the stream after a call. -/
def after (n : Int) (s : σ) (e : Entropy) : Sealing σ → σ × Entropy
  | .direct plaintext password => (s, (wrapFresh n plaintext password e).2)
  | .share c serve d => ((c.share n serve s d e).1.state, (c.share n serve s d e).2)

/-- What is sealed in a call. -/
def made? (n : Int) (s : σ) (e : Entropy) (x : Sealing σ) : Option Sealed :=
  x.input?.map fun (plaintext, password) =>
    ⟨plaintext, password, (wrapFresh n plaintext password e).1, x.sends n s e⟩

end Sealing

/-- What is sealed in a run, in order. -/
def madeIn (n : Int) : σ → Entropy → List (Sealing σ) → List Sealed
  | _, _, [] => []
  | s, e, x :: calls =>
    (x.made? n s e).toList ++ madeIn n (x.after n s e).1 (x.after n s e).2 calls

/-- The stream after a run. -/
def streamAfter (n : Int) : σ → Entropy → List (Sealing σ) → Entropy
  | _, e, [] => e
  | s, e, x :: calls => streamAfter n (x.after n s e).1 (x.after n s e).2 calls

/-- A text is sealed under a block, and what was sent carries its envelope. -/
structure Sealed.Under (n : Int) (b : Bytes) (x : Sealed) : Prop where
  /-- The block is the salt and the nonce. -/
  wrapped : x.envelope = wrap n (saltOf b) (nonceOf b) x.plaintext x.password
  /-- No other envelope is sent. -/
  carried : ∀ y ∈ x.exchanges, ∃ envelope, x.envelope = .ok envelope ∧ Carries y envelope

section Runs

variable {n : Int} {s : σ} {e : Entropy}

/-- A call that seals nothing draws nothing. -/
theorem Sealing.after_of_none {x : Sealing σ} (h : x.made? n s e = none) :
    (x.after n s e).2 = e := by
  have hinput : x.input? = none := Option.map_eq_none_iff.mp h
  cases x with
  | direct plaintext password => cases hinput
  | share c serve d =>
    unfold input? at hinput
    dsimp only at hinput
    split at hinput
    next hempty =>
      unfold after Client.share
      dsimp only
      rw [if_pos hempty]
    next => cases hinput

/-- **A call that seals draws one block**, and seals under it. -/
theorem Sealing.under_of_some {x : Sealing σ} {made : Sealed} (h : x.made? n s e = some made) :
    made.Under n (blockOf e 0) ∧ (x.after n s e).2 = (e.draw blockSize).2 := by
  obtain ⟨input, hinput, rfl⟩ := Option.map_eq_some_iff.mp h
  have hwrap := wrapFresh_eq n input.1 input.2 e
  cases x with
  | direct plaintext password =>
    obtain rfl := Option.some.inj hinput
    exact ⟨⟨congrArg Prod.fst hwrap, fun y hy => absurd hy List.not_mem_nil⟩,
      congrArg Prod.snd hwrap⟩
  | share c serve d =>
    unfold input? at hinput
    dsimp only at hinput
    split at hinput
    next => cases hinput
    next hpassword =>
      obtain rfl := Option.some.inj hinput
      -- what the share sends and leaves of the stream is what its sealing made of it
      have hshare := c.share_eq_deliver n serve s d e (by simpa using hpassword)
      refine ⟨⟨congrArg Prod.fst hwrap, ?_⟩, ?_⟩
      · intro y hy
        replace hy : y ∈ (c.share n serve s d e).1.exchanges := hy
        rw [hshare] at hy
        exact carries_of_mem_deliver hy
      · show (c.share n serve s d e).2 = _
        rw [hshare]
        exact congrArg Prod.snd hwrap

/-- **A run uses the blocks of the stream in order**, one for each text that it seals. -/
theorem madeIn_under (calls : List (Sealing σ)) :
    (∀ (k : Nat) (x : Sealed), (madeIn n s e calls)[k]? = some x → x.Under n (blockOf e k))
    ∧ streamAfter n s e calls = (e.draw (blockSize * (madeIn n s e calls).length)).2 := by
  -- along the calls; the rest of the run starts with the stream that the first call leaves
  induction calls generalizing s e with
  | nil =>
    refine ⟨?_, rfl⟩
    intro k x hx
    cases hx
  | cons call calls ih =>
    obtain ⟨hrest, hstream⟩ := ih (s := (call.after n s e).1) (e := (call.after n s e).2)
    unfold madeIn streamAfter
    cases hmade : call.made? n s e with
    | none =>
      rw [Sealing.after_of_none hmade] at hrest hstream ⊢
      exact ⟨hrest, hstream⟩
    | some made =>
      -- one block is gone, so block `k` of the rest is block `k + 1` of the whole
      obtain ⟨hunder, hdrawn⟩ := Sealing.under_of_some hmade
      rw [hdrawn] at hrest hstream ⊢
      refine ⟨?_, ?_⟩
      · intro k x hx
        cases k with
        | zero =>
          obtain rfl := Option.some.inj hx
          exact hunder
        | succ k =>
          have h := hrest k x hx
          unfold blockOf at h
          rw [Entropy.block_draw] at h
          exact h
      · rw [hstream, Entropy.draw_draw]
        show _ = (e.draw (blockSize * (_ + 1))).2
        rw [Nat.mul_succ, Nat.add_comm]
        rfl

/-- The envelopes made in a run are those of its sealings, in their order. -/
theorem map_input_madeIn (calls : List (Sealing σ)) :
    (madeIn n s e calls).map (fun x => (x.plaintext, x.password))
      = calls.filterMap Sealing.input? := by
  induction calls generalizing s e with
  | nil => rfl
  | cons call calls ih =>
    unfold madeIn Sealing.made?
    rw [List.map_append, ih, List.filterMap_cons]
    cases call.input? with
    | none => rfl
    | some input => rfl

end Runs

/-! ## §5. Envelopes of a run -/

/-- Texts sealed in a run over a stream, each under a block of its own. -/
structure ByBlocks (n : Int) (e : Entropy) (made : List Sealed) : Prop where
  /-- Each text is sealed under its block, and nothing but its envelope is sent. -/
  under : ∀ (k : Nat) (x : Sealed), made[k]? = some x → x.Under n (blockOf e k)
  /-- An envelope decodes to octets that start with its block. -/
  starts : ∀ (k : Nat) (x : Sealed) (envelope : Text), made[k]? = some x →
    x.envelope = .ok envelope → StartsWith envelope (blockOf e k)
  /-- Envelopes are the same text only if their blocks are the same octets. -/
  same : ∀ (j k : Nat) (x y : Sealed) (envelope : Text), made[j]? = some x → made[k]? = some y →
    x.envelope = .ok envelope → y.envelope = .ok envelope → blockOf e j = blockOf e k
  /-- The same text sealed under the same password has different envelopes under different
  blocks. -/
  differ : ∀ (j k : Nat) (x y : Sealed) (envelope envelope' : Text), made[j]? = some x →
    made[k]? = some y → x.plaintext = y.plaintext → x.password = y.password →
    x.envelope = .ok envelope → y.envelope = .ok envelope' → blockOf e j ≠ blockOf e k →
    envelope ≠ envelope'

/-- Envelopes made under successive blocks are made by blocks. -/
theorem ByBlocks.of_under {n : Int} {e : Entropy} {made : List Sealed}
    (h : ∀ (k : Nat) (x : Sealed), made[k]? = some x → x.Under n (blockOf e k)) :
    ByBlocks n e made := by
  have hstarts : ∀ (k : Nat) (x : Sealed) (envelope : Text), made[k]? = some x →
      x.envelope = .ok envelope → StartsWith envelope (blockOf e k) := by
    intro k x envelope hx henvelope
    rw [(h k x hx).wrapped] at henvelope
    exact startsWith_wrap (e.length_block blockSize k) henvelope
  have hsame : ∀ (j k : Nat) (x y : Sealed) (envelope : Text), made[j]? = some x →
      made[k]? = some y → x.envelope = .ok envelope → y.envelope = .ok envelope →
      blockOf e j = blockOf e k := by
    intro j k x y envelope hx hy hxe hye
    exact (hstarts j x envelope hx hxe).unique (hstarts k y envelope hy hye)
  refine ⟨h, hstarts, hsame, ?_⟩
  rintro j k x y envelope _ hx hy _ _ hxe hye hne rfl
  exact hne (hsame j k x y envelope hx hy hxe hye)

/-- **No salt and no nonce is used twice.**  In every run, the `k`-th text that is sealed, directly
or by a share, is sealed under the `k`-th block of the stream, and these blocks one after the other
are all that the run draws. -/
theorem blocks_serve_once (n : Int) (s : σ) (e : Entropy) (calls : List (Sealing σ)) :
    ByBlocks n e (madeIn n s e calls)
    ∧ (madeIn n s e calls).map (fun x => (x.plaintext, x.password))
        = calls.filterMap Sealing.input?
    ∧ streamAfter n s e calls = (e.draw (blockSize * (madeIn n s e calls).length)).2
    ∧ (e.draw (blockSize * (madeIn n s e calls).length)).1
        = (List.range (madeIn n s e calls).length).flatMap (blockOf e) := by
  obtain ⟨hunder, hstream⟩ := madeIn_under (n := n) (s := s) (e := e) calls
  exact ⟨.of_under hunder, map_input_madeIn calls, hstream, e.draw_blocks blockSize _⟩

/-- A stream that counts. -/
def counting : Entropy := ⟨UInt8.ofNat, 0⟩

/-- A client without a name. -/
def nameless : Client := ⟨"http://localhost:8000", none, none⟩

/-- A server that has nothing to say. -/
def silent : Server Unit := fun s _ => (Http.Response.json 204 .null, s)

/-- One text sealed twice, the second time by a share that comes to nothing. -/
def sealedTwice : List (Sealing Unit) :=
  [.direct "hello" "pw", .share nameless silent ⟨"hello", "pw", Stamp.utc Moment.first, false⟩]

/-- A text that is sealed twice has two envelopes, as long as the stream does not repeat itself. -/
theorem blocks_serve_once_twice : ∃ x y first second,
    madeIn 1 () counting sealedTwice = [x, y] ∧ x.envelope = .ok first ∧ y.envelope = .ok second
      ∧ x.plaintext = y.plaintext ∧ x.password = y.password ∧ first ≠ second := by
  obtain ⟨hblocks, hinputs, _⟩ := blocks_serve_once 1 () counting sealedTwice
  -- both calls seal, and each can
  have htwo : sealedTwice.filterMap Sealing.input?
      = ([("hello", "pw"), ("hello", "pw")] : List (Text × Text)) := rfl
  rw [htwo] at hinputs
  obtain ⟨x, rest, hmade, hx, hrest⟩ := List.map_eq_cons_iff.mp hinputs
  obtain ⟨y, rest, rfl, hy, hnil⟩ := List.map_eq_cons_iff.mp hrest
  obtain rfl := List.map_eq_nil_iff.mp hnil
  obtain ⟨hxtext, hxpassword⟩ := Prod.mk.inj hx
  obtain ⟨hytext, hypassword⟩ := Prod.mk.inj hy
  rw [hmade] at hblocks
  have hseals : ∀ b, ∃ envelope, wrap 1 (saltOf b) (nonceOf b) "hello" "pw" = .ok envelope :=
    fun b => exists_wrap _ (exists_deriveKey (by decide) (by decide) (by decide) _) (by decide)
  obtain ⟨first, hfirst⟩ := hseals (blockOf counting 0)
  obtain ⟨second, hsecond⟩ := hseals (blockOf counting 1)
  have hxe : x.envelope = .ok first := by
    rw [(hblocks.under 0 x rfl).wrapped, hxtext, hxpassword]
    exact hfirst
  have hye : y.envelope = .ok second := by
    rw [(hblocks.under 1 y rfl).wrapped, hytext, hypassword]
    exact hsecond
  have htext := hxtext.trans hytext.symm
  have hpassword := hxpassword.trans hypassword.symm
  refine ⟨x, y, first, second, hmade, hxe, hye, htext, hpassword, ?_⟩
  exact hblocks.differ 0 1 x y first second rfl rfl htext hpassword hxe hye (by decide)

end Client

end SealedDrop
