/-
  NimbusIo.Handoff.Retrieval

  The forwarder's reader side: `forwarder_coroutine` asks the holding
  node's data reader for the handed-off segment.  Its resilient client
  writes `client-tag` into each message (`_send_message`), and the
  reader's `_handle_retrieve_key_start` receives the result.

  The two sides disagree on `retrieve-key-start`: the forwarder sends the
  unified id and segment number only, and the reader reads
  `segment-conjoined-part` while building its reply.
-/
import NimbusIo.Handoff.ForwarderCoroutine
import NimbusIo.Reader.DataReader

namespace NimbusIo
namespace Handoff

/-- The forwarder's first request, as the reader receives it, lacks
    `segment-conjoined-part`: for every segment the start handler raises
    `KeyError` while building its reply, before it answers or keeps any
    state, so the coroutine waits for a reply that never comes. -/
theorem forwarder_retrieveKeyStart_raises_keyError (f : Forwarder) (env : Reader.ReaderEnv)
    (now : ℚ) (s : Reader.ReaderState) (clientTag : String) :
    (forwarderCoroutine f []).queued =
      [⟨.reader, retrieveMessage "retrieve-key-start" (f.messageId 0) f.segmentRow, .none⟩] ∧
    (Reader.handleRetrieveKeyStart env now
        ((retrieveMessage "retrieve-key-start" (f.messageId 0) f.segmentRow).set "client-tag"
          (.str clientTag))).run s =
      .error (.keyError "segment-conjoined-part") s := by
  refine ⟨rfl, ?_⟩
  simp [Reader.handleRetrieveKeyStart, Reader.computeStateKey, Reader.retrieveReply,
    Reader.startReplyFields, Reader.copyFields, retrieveMessage, PyDict.set, PyDict.contains,
    PyDict.get?_cons, PyDict.get?_append, Control.item]

end Handoff
end NimbusIo
