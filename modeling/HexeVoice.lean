import HexeVoice.Library.Machine
import HexeVoice.Library.Dict
import HexeVoice.Library.Returns
import HexeVoice.Library.RunningMax
import HexeVoice.Voice.Contracts
import HexeVoice.Voice.WakeElection
import HexeVoice.Voice.Runtime
import HexeVoice.Voice.Handlers
import HexeVoice.Voice.Registry
import HexeVoice.Voice.Manager
import HexeVoice.Voice.SessionMachine
import HexeVoice.Voice.SessionPaths
import HexeVoice.Voice.Occasion
import HexeVoice.Voice.Refinement
import HexeVoice.Voice.Acceptance
import HexeVoice.Voice.Steps
import HexeVoice.Voice.Sessions
import HexeVoice.Voice.SessionLog
import HexeVoice.Voice.SessionStates
import HexeVoice.Voice.Utterances
import HexeVoice.Voice.WakeAudio
import HexeVoice.Voice.FollowupTimers
import HexeVoice.Voice.Connected
import HexeVoice.Voice.ElectionLead
import HexeVoice.Voice.ElectionWindow
import HexeVoice.Weather.Snapshots
import HexeVoice.Voice.AcceptedWakes
import HexeVoice.Voice.Winners
import HexeVoice.Voice.CommandPushes
import HexeVoice.Voice.Connections
import HexeVoice.Library.Frame
import HexeVoice.Voice.Frames
import HexeVoice.Voice.Rejections
import HexeVoice.Voice.ForeignEvents
import HexeVoice.Voice.Totality
import HexeVoice.Voice.Timeouts
import HexeVoice.Admin.Passcodes
import HexeVoice.Admin.Maintenance
import HexeVoice.Admin.Guessing
import HexeVoice.Assistant.Followups
import HexeVoice.Library.Pattern
import HexeVoice.Assistant.NumberWords
import HexeVoice.Assistant.VolumeCommands
import HexeVoice.Assistant.Durations
import HexeVoice.Assistant.SpokenDurations
import HexeVoice.Assistant.DroppedNumerals
import HexeVoice.Assistant.FormattedDurations
import HexeVoice.Library.Python
import HexeVoice.Timers.Ownership
import HexeVoice.Timers.Reconciliation
import HexeVoice.Recordings.Files
import HexeVoice.Recordings.MicroVadChunks
import HexeVoice.Recordings.AcceptedAudio
import HexeVoice.Voice.Essence
import HexeVoice.Voice.Upkeep
import HexeVoice.Voice.PlacementPrivacy
import HexeVoice.Recordings.WakeRecordings
import HexeVoice.Recordings.SavedOnce
import HexeVoice.Placement.Calibration
import HexeVoice.Placement.Lifetimes
import HexeVoice.Library.Pydantic
import HexeVoice.Onboarding.State
import HexeVoice.Migration.SttProfiles
import HexeVoice.Migration.Sections
import HexeVoice.Library.JsonDepth
import HexeVoice.Migration.Bundle
import HexeVoice.Migration.AllOrNothing
import HexeVoice.Migration.SectionChecks
import HexeVoice.Migration.TrustSecrets
import HexeVoice.Migration.RoundTrip
import HexeVoice.Library.CString
import HexeVoice.Firmware.Ota
import HexeVoice.Tts.Assets
import HexeVoice.Tts.Namespaces
import HexeVoice.Tts.Availability
import HexeVoice.Firmware.ModelBundleManifest
import HexeVoice.Speakers.Profiles
import HexeVoice.Firmware.AssetSync
import HexeVoice.Timers.QuickActions
import HexeVoice.Endpoint.Registry
import HexeVoice.Library.Nvs
import HexeVoice.Firmware.Settings
import HexeVoice.Library.CJson
import HexeVoice.Recovery.Reset
import HexeVoice.Recovery.Provisioning
import HexeVoice.Library.Base64
import HexeVoice.Library.JsonBytes
import HexeVoice.Recovery.Pairing
import HexeVoice.Recovery.Envelopes
import HexeVoice.Recovery.IdentityLifetime
import HexeVoice.Library.Lines
import HexeVoice.Recovery.EnvelopeReplay
import HexeVoice.Library.Outcomes
import HexeVoice.Library.Utf8
import HexeVoice.Library.Decimal
import HexeVoice.Library.Digest
import HexeVoice.Firmware.OtaManifest
import HexeVoice.Firmware.OtaTask
import HexeVoice.Firmware.TtsPlayer
import HexeVoice.Firmware.VoiceActivity
import HexeVoice.Firmware.MicroVad
import HexeVoice.Recovery.Install
import HexeVoice.Assistant.TimerCreate
import HexeVoice.Firmware.VoiceSession
import HexeVoice.Firmware.AudioUpload
import HexeVoice.Firmware.LateEvents
import HexeVoice.Library.Recency
import HexeVoice.Library.JsonEquality
import HexeVoice.Voice.SessionHistory
import HexeVoice.Voice.SilenceTrim
import HexeVoice.Library.Framing
import HexeVoice.Voice.WyomingFrames
import HexeVoice.Voice.WyomingWake
import HexeVoice.Library.Rounding
import HexeVoice.Speakers.Identification
import HexeVoice.Endpoint.WifiCredentials
import HexeVoice.Voice.CompleteTurn
import HexeVoice.Voice.SpeakerIdentity
import HexeVoice.Tts.OptionalConversions
import HexeVoice.Tts.ManagedAnswers
import HexeVoice.Endpoint.Media
import HexeVoice.Endpoint.MediaStore
import HexeVoice.Voice.AdultOverride
import HexeVoice.Voice.TurnService
import HexeVoice.Voice.OneCommand
import HexeVoice.Voice.RefusedTurns
import HexeVoice.Voice.SpokenPasscode
import HexeVoice.Firmware.MicroWakeModel
import HexeVoice.Firmware.MicroWakeFrontend
import HexeVoice.Library.Loop
import HexeVoice.Library.Gregorian
import HexeVoice.Firmware.EnvelopeExpiry
import HexeVoice.Firmware.Wav
import HexeVoice.Firmware.WavStream
import HexeVoice.Library.Interrupted
import HexeVoice.Firmware.ProvisioningInterrupted
import HexeVoice.Firmware.AssetReplaced
import HexeVoice.Firmware.ModelBundle
import HexeVoice.Firmware.ModelCache
import HexeVoice.Firmware.ModelValidation
import HexeVoice.Recovery.Base64Url
