/-!
# Deployment configuration

The keys of the configuration service that the modelled services read.
-/

namespace KubeNova.Common

structure Config where
  superadminUserId : Option String
  /-- `mfaEncryptionKey`. -/
  mfaEncryptionKey : Option String
  /-- `MFA_ENCRYPTION_KEY`. -/
  mfaEncryptionKeyVariable : Option String
  jwtExpiresIn : Option String
  refreshTokenExpiresIn : Option String
  deriving Repr, DecidableEq

/-- `config.get('mfaEncryptionKey') ?? config.get('MFA_ENCRYPTION_KEY') ?? ''`. -/
def Config.encryptionKey (config : Config) : String :=
  (config.mfaEncryptionKey.or config.mfaEncryptionKeyVariable).getD ""

end KubeNova.Common
