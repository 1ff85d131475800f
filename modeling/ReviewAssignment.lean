import ReviewAssignment.Main
import ReviewAssignment.Proofs.Interleaving.Merges
import ReviewAssignment.Proofs.Interleaving.Reassignments
import ReviewAssignment.Proofs.Interleaving.Swaps
import ReviewAssignment.Proofs.Interleaving.Views
import ReviewAssignment.Proofs.Interleaving.Causes
import ReviewAssignment.Proofs.Alone.Deactivation
import ReviewAssignment.Proofs.Alone.Independence
import ReviewAssignment.Proofs.Alone.Lock
import ReviewAssignment.Proofs.Interleaving.SplitReadings
import ReviewAssignment.Proofs.Alone.Reassignment
import ReviewAssignment.Proofs.Http.Envelope
import ReviewAssignment.Proofs.FirstReviewers
import ReviewAssignment.Proofs.Interleaving.Upserts
import ReviewAssignment.Proofs.Interleaving.Creations
import ReviewAssignment.Proofs.Alone.TeamUpserts
import ReviewAssignment.Proofs.Interleaving.UpsertEffects
import ReviewAssignment.Proofs.Store.Insertions
import ReviewAssignment.Proofs.Store.ReviewLists
import ReviewAssignment.Proofs.SlotHistory
import ReviewAssignment.Proofs.Migrations
import ReviewAssignment.Proofs.Http.TeamReadBack
