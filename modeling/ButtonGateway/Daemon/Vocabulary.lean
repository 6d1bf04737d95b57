import ButtonGateway.Enumeration

namespace ButtonGateway.Daemon

/-- How fast a connection reacts. -/
inductive LatencyMode where
  | normal
  | low
  | high
  deriving DecidableEq, Repr

instance : Enumeration LatencyMode where
  title := "LatencyMode"
  values := [.normal, .low, .high]
  name
    | .normal => "Normal"
    | .low => "Low"
    | .high => "High"
  complete value := by cases value <;> decide
  distinct := by decide
  small := by decide

inductive ChannelError where
  | noError
  | maxPendingConnectionsReached
  deriving DecidableEq, Repr

instance : Enumeration ChannelError where
  title := "CreateConnectionChannelError"
  values := [.noError, .maxPendingConnectionsReached]
  name
    | .noError => "NoError"
    | .maxPendingConnectionsReached => "MaxPendingConnectionsReached"
  complete value := by cases value <;> decide
  distinct := by decide
  small := by decide

/-- How far a connection to a button has come. -/
inductive ConnectionStatus where
  | disconnected
  | connected
  | ready
  deriving DecidableEq, Repr

instance : Enumeration ConnectionStatus where
  title := "ConnectionStatus"
  values := [.disconnected, .connected, .ready]
  name
    | .disconnected => "Disconnected"
    | .connected => "Connected"
    | .ready => "Ready"
  complete value := by cases value <;> decide
  distinct := by decide
  small := by decide

inductive DisconnectReason where
  | unspecified
  | connectionEstablishmentFailed
  | timedOut
  | bondingKeysMismatch
  deriving DecidableEq, Repr

instance : Enumeration DisconnectReason where
  title := "DisconnectReason"
  values := [.unspecified, .connectionEstablishmentFailed, .timedOut, .bondingKeysMismatch]
  name
    | .unspecified => "Unspecified"
    | .connectionEstablishmentFailed => "ConnectionEstablishmentFailed"
    | .timedOut => "TimedOut"
    | .bondingKeysMismatch => "BondingKeysMismatch"
  complete value := by cases value <;> decide
  distinct := by decide
  small := by decide

inductive RemovalReason where
  | removedByThisClient
  | forceDisconnectedByThisClient
  | forceDisconnectedByOtherClient
  | buttonIsPrivate
  | verifyTimeout
  | internetBackendError
  | invalidData
  | couldntLoadDevice
  | deletedByThisClient
  | deletedByOtherClient
  | buttonBelongsToOtherPartner
  | deletedFromButton
  deriving DecidableEq, Repr

instance : Enumeration RemovalReason where
  title := "RemovedReason"
  values := [.removedByThisClient, .forceDisconnectedByThisClient,
    .forceDisconnectedByOtherClient, .buttonIsPrivate, .verifyTimeout, .internetBackendError,
    .invalidData, .couldntLoadDevice, .deletedByThisClient, .deletedByOtherClient,
    .buttonBelongsToOtherPartner, .deletedFromButton]
  name
    | .removedByThisClient => "RemovedByThisClient"
    | .forceDisconnectedByThisClient => "ForceDisconnectedByThisClient"
    | .forceDisconnectedByOtherClient => "ForceDisconnectedByOtherClient"
    | .buttonIsPrivate => "ButtonIsPrivate"
    | .verifyTimeout => "VerifyTimeout"
    | .internetBackendError => "InternetBackendError"
    | .invalidData => "InvalidData"
    | .couldntLoadDevice => "CouldntLoadDevice"
    | .deletedByThisClient => "DeletedByThisClient"
    | .deletedByOtherClient => "DeletedByOtherClient"
    | .buttonBelongsToOtherPartner => "ButtonBelongsToOtherPartner"
    | .deletedFromButton => "DeletedFromButton"
  complete value := by cases value <;> decide
  distinct := by decide
  small := by decide

inductive Click where
  | down
  | up
  | click
  | singleClick
  | doubleClick
  | hold
  deriving DecidableEq, Repr

instance : Enumeration Click where
  title := "ClickType"
  values := [.down, .up, .click, .singleClick, .doubleClick, .hold]
  name
    | .down => "Down"
    | .up => "Up"
    | .click => "Click"
    | .singleClick => "SingleClick"
    | .doubleClick => "DoubleClick"
    | .hold => "Hold"
  complete value := by cases value <;> decide
  distinct := by decide
  small := by decide

/-- How a controller came by its address. -/
inductive AddressKind where
  | registered
  | random
  deriving DecidableEq, Repr

instance : Enumeration AddressKind where
  title := "BdAddrType"
  values := [.registered, .random]
  name
    | .registered => "Public"
    | .random => "Random"
  complete value := by cases value <;> decide
  distinct := by decide
  small := by decide

inductive WizardResult where
  | success
  | cancelledByUser
  | failedTimeout
  | buttonIsPrivate
  | bluetoothUnavailable
  | internetBackendError
  | invalidData
  | buttonBelongsToOtherPartner
  | buttonAlreadyConnectedToOtherDevice
  deriving DecidableEq, Repr

instance : Enumeration WizardResult where
  title := "ScanWizardResult"
  values := [.success, .cancelledByUser, .failedTimeout, .buttonIsPrivate, .bluetoothUnavailable,
    .internetBackendError, .invalidData, .buttonBelongsToOtherPartner,
    .buttonAlreadyConnectedToOtherDevice]
  name
    | .success => "Success"
    | .cancelledByUser => "CancelledByUser"
    | .failedTimeout => "FailedTimeout"
    | .buttonIsPrivate => "ButtonIsPrivate"
    | .bluetoothUnavailable => "BluetoothUnavailable"
    | .internetBackendError => "InternetBackendError"
    | .invalidData => "InvalidData"
    | .buttonBelongsToOtherPartner => "ButtonBelongsToOtherPartner"
    | .buttonAlreadyConnectedToOtherDevice => "ButtonAlreadyConnectedToOtherDevice"
  complete value := by cases value <;> decide
  distinct := by decide
  small := by decide

/-- The state of the controller that the daemon drives. -/
inductive ControllerState where
  | detached
  | resetting
  | attached
  deriving DecidableEq, Repr

instance : Enumeration ControllerState where
  title := "BluetoothControllerState"
  values := [.detached, .resetting, .attached]
  name
    | .detached => "Detached"
    | .resetting => "Resetting"
    | .attached => "Attached"
  complete value := by cases value <;> decide
  distinct := by decide
  small := by decide

end ButtonGateway.Daemon
