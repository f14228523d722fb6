import GameCatalog.Proofs.Random.Generator
import GameCatalog.Proofs.Random.Rejection

/-!
Drawing alphanumeric text from a stream.  The generator behind the octets at hand never stops
yielding octets that pick a symbol, one in each block at least, so a text of any length is drawn,
and the number of blocks that a draw may use is never too small.
-/

namespace GameCatalog.Alphanumeric

theorem inexhaustible_next (stream : Stream) : Inexhaustible Stream.next stream := by
  intro count
  have exhausted : (Stream.draw Stream.next (count + stream.pending.length) stream).2.pending =
      [] := by
    rw [Stream.pending_draw]
    exact List.drop_eq_nil_of_le (Nat.le_add_left _ _)
  have generated : (Stream.draw Stream.next (count + stream.pending.length) stream).2 =
      ⟨[], (Stream.draw Stream.next (count + stream.pending.length) stream).2.state⟩ := by
    rw [← exhausted]
  obtain ⟨octet, drawn, small⟩ := Stream.exists_accepted
    (Stream.draw Stream.next (count + stream.pending.length) stream).2.state
  rw [← generated] at drawn
  obtain ⟨place, -, rfl⟩ := Stream.mem_draw_iff.mp drawn
  refine ⟨count + stream.pending.length + place, by omega, ?_⟩
  rw [Stream.octetAfter_add]
  exact of_decide_eq_true small

theorem le_length_accepted (blocks : Nat) (stream : Stream) :
    blocks ≤ (stream.pending.length + 63) / 64 +
      (accepted Stream.next blocks stream).length := by
  induction blocks generalizing stream with
  | zero => exact Nat.zero_le _
  | succ blocks inductionHypothesis =>
      have later := inductionHypothesis (Stream.draw Stream.next blockSize stream).2
      have left : (Stream.draw Stream.next blockSize stream).2.pending.length =
          stream.pending.length - 64 := by
        rw [Stream.pending_draw, List.length_drop]
        rfl
      rw [left] at later
      rw [accepted_succ, List.length_append]
      by_cases exhausted : stream.pending = []
      · have generated : stream = ⟨[], stream.state⟩ := by rw [← exhausted]
        obtain ⟨octet, drawn, small⟩ := Stream.exists_accepted stream.state
        rw [← generated] at drawn
        have progress := List.length_pos_of_mem (List.mem_filter.mpr ⟨drawn, small⟩)
        omega
      · have positive := List.length_pos_iff.mpr exhausted
        omega

theorem draws_draw (length : Nat) (stream : Stream) :
    Draws Stream.next length stream (draw length stream).1 (draw length stream).2 := by
  have held := le_length_accepted (enoughBlocks length stream) stream
  have drawn : (draw? Stream.next (enoughBlocks length stream) length stream).isSome = true := by
    apply isSome_draw?_iff.mpr
    unfold enoughBlocks blockSize at held ⊢
    omega
  obtain ⟨result, drawn⟩ := Option.isSome_iff_exists.mp drawn
  refine ⟨enoughBlocks length stream, ?_⟩
  unfold draw
  rw [drawn]
  rfl

end GameCatalog.Alphanumeric
