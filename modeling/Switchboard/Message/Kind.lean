/-! # The kinds of message

Every message carries its kind as a tag.  The kinds form a closed list, and a
kind settles which way a message may travel and whether it needs an id.

* `Message.Kind`, `Message.Family` — the kinds, and the five groups of them;
* `Message.Kind.tag`, `Message.Kind.ofTag?` — the tag of a kind, and back;
* `Message.Kind.all` — the catalogue, in its fixed order. -/

namespace Switchboard.Message

/-- Who sends a kind of message to whom, and whether an id ties question to answer. -/
inductive Family where
  /-- From a mobile to the desktop, with an id. -/
  | command
  /-- From a mobile to the desktop, no answer expected. -/
  | directive
  /-- From the desktop to a mobile, with the id of the command. -/
  | response
  /-- From the desktop to the mobiles, unasked. -/
  | event
  /-- Written by the relay itself. -/
  | control
deriving DecidableEq, Repr

namespace Family

def name : Family → String
  | .command => "command"
  | .directive => "directive"
  | .response => "response"
  | .event => "event"
  | .control => "control"

/-- Commands and their responses need an id, by which the one is found again for the other. -/
def needsId : Family → Bool
  | .command | .response => true
  | _ => false

/-- Whether messages of the family go from a mobile to the desktop. -/
def toDesktop : Family → Bool
  | .command | .directive => true
  | _ => false

/-- Whether messages of the family go from the desktop to the mobiles. -/
def toMobiles : Family → Bool
  | .response | .event => true
  | _ => false

end Family

inductive Kind where
  | listJobs
  | runJob
  | pauseJob
  | resumeJob
  | stopJob
  | sendInput
  | subscribeLogs
  | getRunHistory
  | runAgent
  | createJob
  | detectProcesses
  | getRunDetail
  | getDetectedProcessLogs
  | sendDetectedProcessInput
  | stopDetectedProcess
  | answerQuestion
  | setAutoYesPanes
  | unsubscribeLogs
  | jobsList
  | runJobAck
  | pauseJobAck
  | resumeJobAck
  | stopJobAck
  | sendInputAck
  | subscribeLogsAck
  | runHistory
  | runAgentAck
  | createJobAck
  | detectedProcesses
  | runDetailResponse
  | detectedProcessLogs
  | sendDetectedProcessInputAck
  | stopDetectedProcessAck
  | statusUpdate
  | logChunk
  | jobsChanged
  | jobNotification
  | claudeQuestions
  | welcome
  | error
  | desktopStatus
deriving DecidableEq, Repr

namespace Kind

/-- The catalogue of kinds, in its fixed order. -/
def all : List Kind :=
  [.listJobs, .runJob, .pauseJob, .resumeJob, .stopJob, .sendInput, .subscribeLogs,
   .getRunHistory, .runAgent, .createJob, .detectProcesses, .getRunDetail,
   .getDetectedProcessLogs, .sendDetectedProcessInput, .stopDetectedProcess, .answerQuestion,
   .setAutoYesPanes, .unsubscribeLogs, .jobsList, .runJobAck, .pauseJobAck, .resumeJobAck,
   .stopJobAck, .sendInputAck, .subscribeLogsAck, .runHistory, .runAgentAck, .createJobAck,
   .detectedProcesses, .runDetailResponse, .detectedProcessLogs, .sendDetectedProcessInputAck,
   .stopDetectedProcessAck, .statusUpdate, .logChunk, .jobsChanged, .jobNotification,
   .claudeQuestions, .welcome, .error, .desktopStatus]

/-- The tag that stands for a kind on the wire. -/
def tag : Kind → String
  | .listJobs => "list_jobs"
  | .runJob => "run_job"
  | .pauseJob => "pause_job"
  | .resumeJob => "resume_job"
  | .stopJob => "stop_job"
  | .sendInput => "send_input"
  | .subscribeLogs => "subscribe_logs"
  | .getRunHistory => "get_run_history"
  | .runAgent => "run_agent"
  | .createJob => "create_job"
  | .detectProcesses => "detect_processes"
  | .getRunDetail => "get_run_detail"
  | .getDetectedProcessLogs => "get_detected_process_logs"
  | .sendDetectedProcessInput => "send_detected_process_input"
  | .stopDetectedProcess => "stop_detected_process"
  | .answerQuestion => "answer_question"
  | .setAutoYesPanes => "set_auto_yes_panes"
  | .unsubscribeLogs => "unsubscribe_logs"
  | .jobsList => "jobs_list"
  | .runJobAck => "run_job_ack"
  | .pauseJobAck => "pause_job_ack"
  | .resumeJobAck => "resume_job_ack"
  | .stopJobAck => "stop_job_ack"
  | .sendInputAck => "send_input_ack"
  | .subscribeLogsAck => "subscribe_logs_ack"
  | .runHistory => "run_history"
  | .runAgentAck => "run_agent_ack"
  | .createJobAck => "create_job_ack"
  | .detectedProcesses => "detected_processes"
  | .runDetailResponse => "run_detail_response"
  | .detectedProcessLogs => "detected_process_logs"
  | .sendDetectedProcessInputAck => "send_detected_process_input_ack"
  | .stopDetectedProcessAck => "stop_detected_process_ack"
  | .statusUpdate => "status_update"
  | .logChunk => "log_chunk"
  | .jobsChanged => "jobs_changed"
  | .jobNotification => "job_notification"
  | .claudeQuestions => "claude_questions"
  | .welcome => "welcome"
  | .error => "error"
  | .desktopStatus => "desktop_status"

def family : Kind → Family
  | .listJobs | .runJob | .pauseJob | .resumeJob | .stopJob | .sendInput | .subscribeLogs
  | .getRunHistory | .runAgent | .createJob | .detectProcesses | .getRunDetail
  | .getDetectedProcessLogs | .sendDetectedProcessInput | .stopDetectedProcess | .answerQuestion
  | .setAutoYesPanes => .command
  | .unsubscribeLogs => .directive
  | .jobsList | .runJobAck | .pauseJobAck | .resumeJobAck | .stopJobAck | .sendInputAck
  | .subscribeLogsAck | .runHistory | .runAgentAck | .createJobAck | .detectedProcesses
  | .runDetailResponse | .detectedProcessLogs | .sendDetectedProcessInputAck
  | .stopDetectedProcessAck => .response
  | .statusUpdate | .logChunk | .jobsChanged | .jobNotification | .claudeQuestions => .event
  | .welcome | .error | .desktopStatus => .control

def ofTag? (s : String) : Option Kind := all.find? fun k => k.tag = s

theorem tag_of_ofTag? {s : String} {k : Kind} (h : ofTag? s = some k) : k.tag = s := by
  simpa using List.find?_some h

theorem ofTag?_tag (k : Kind) : ofTag? k.tag = some k := by
  cases k <;> decide +kernel

end Kind

end Switchboard.Message
