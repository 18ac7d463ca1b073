/-!
# Warnings

Trouble that does not end an operation is reported by a warning.
-/

namespace ContentSync

/-- What is warned of. -/
inductive Warning where
  | signatureRejected
  | readFailed
  | staleAfterAllReads
  | contentModelUnavailable
  | contentUnavailable
  | webhookSetupFailed
  | bulkPublishFailed
  | bulkUnpublishFailed
  deriving DecidableEq

/-- The wording of a warning. -/
def Warning.message : Warning → String
  | .signatureRejected => "webhook signature rejected"
  | .readFailed => "item read failed"
  | .staleAfterAllReads => "content API did not reflect change; keeping last read"
  | .contentModelUnavailable => "failed to load content model"
  | .contentUnavailable => "failed to fetch content"
  | .webhookSetupFailed => "webhook setup failed"
  | .bulkPublishFailed => "bulk publish failed"
  | .bulkUnpublishFailed => "bulk unpublish failed"

end ContentSync
