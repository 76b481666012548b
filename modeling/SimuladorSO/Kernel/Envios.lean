import SimuladorSO.Kernel.Desalojos

/-!
# What memoria is told about new processes

`INICIAR_PROCESO` of the console is the only operation that sends the creation of a process to
memoria, and it is the only one that takes a pid (`SinIniciar` holds of the others): so memoria is
told of the processes in the order of their pids.
-/

namespace SimuladorSO.Kernel

open Commons

/-- The process that a sent message creates, if it creates one. -/
def Envio.iniciado? : Envio → Option ℕ
  | .iniciarProceso _ pid => some pid
  | _ => none

/-- The message is for memoria. -/
def Envio.paraMemoria : Envio → Bool
  | .iniciarProceso _ _ => true
  | .finalizarProceso _ => true
  | _ => false

/-- No pid has been taken, and what has been sent creates no process. -/
structure SinIniciar (k k' : Estado) : Prop where
  contadorPid : k'.contadorPid = k.contadorPid
  enviados : ∃ es, k'.enviados = k.enviados ++ es ∧ ∀ e ∈ es, e.iniciado? = none

variable {cfg : KernelConfiguracion} {k k₁ k' : Estado} {p : ℕ} {l : Lugar} {motivo : Cadena}
  {lista : List Cadena}

theorem SinIniciar.trans (h : SinIniciar k k₁) (h₁ : SinIniciar k₁ k') : SinIniciar k k' := by
  obtain ⟨hpid, es, hes, hno⟩ := h
  obtain ⟨hpid', fs, hfs, hno'⟩ := h₁
  refine ⟨hpid'.trans hpid, es ++ fs, by rw [hfs, hes, List.append_assoc], fun e he => ?_⟩
  exact (List.mem_append.1 he).elim (hno e) (hno' e)

/-- Nothing has been sent. -/
theorem SinIniciar.of_eq (hpid : k'.contadorPid = k.contadorPid)
    (henv : k'.enviados = k.enviados) : SinIniciar k k' :=
  ⟨hpid, [], by rw [henv, List.append_nil], fun _ h => absurd h List.not_mem_nil⟩

theorem SinIniciar.refl (k : Estado) : SinIniciar k k := .of_eq rfl rfl

/-- One message has been sent. -/
theorem SinIniciar.enviar {e : Envio} (hpid : k'.contadorPid = k.contadorPid)
    (henv : k'.enviados = k.enviados ++ [e]) (he : e.iniciado? = none) : SinIniciar k k' :=
  ⟨hpid, [e], henv, fun e' he' => by rw [List.mem_singleton.1 he', he]⟩

theorem iniciar_sinIniciar (cfg : KernelConfiguracion) (k : Estado) (p : ℕ) (motivo : Cadena) :
    SinIniciar k (iniciar cfg k p motivo) := by
  refine .of_eq ?_ (iniciar_frame cfg k p motivo).2.1
  unfold iniciar
  split_ifs <;> rfl

theorem desbloquear_sinIniciar (h : desbloquear cfg k l motivo = some k') : SinIniciar k k' := by
  obtain ⟨q, k₁, hd, rfl⟩ := desbloquear_eq_some h
  obtain ⟨resto, -, rfl⟩ := desencolar_eq_some hd
  have hsale : SinIniciar k { k with cola := Function.update k.cola l resto } := .of_eq rfl rfl
  exact hsale.trans (iniciar_sinIniciar cfg _ q motivo)

theorem signal_sinIniciar {recurso : Cadena} {b : Bool}
    (h : signal cfg k recurso p = some (k', b)) : SinIniciar k k' := by
  rcases signal_cases h with ⟨-, rfl, -⟩ | ⟨i, k₁, -, -, hk₁, hquitar⟩
  · exact .refl k'
  · obtain ⟨-, rfl⟩ := quitar_eq_some hquitar
    have h₁ : SinIniciar k k₁ := by
      rcases hk₁ with ⟨-, hdes⟩ | ⟨-, rfl⟩
      · have h₀ := desbloquear_sinIniciar hdes
        exact ⟨h₀.contadorPid, h₀.enviados⟩
      · exact .of_eq rfl rfl
    exact ⟨h₁.contadorPid, h₁.enviados⟩

theorem exitPrima_sinIniciar (h : exitPrima cfg k p = some k') :
    SinIniciar k k' := by
  obtain ⟨k₁, hl, rfl⟩ := exitPrima_eq_some h
  have h₁ : SinIniciar k k₁ := liberarRecursosDesde_induct (P := SinIniciar k)
    (fun _ _ _ _ h _ hs => h.trans (signal_sinIniciar hs)) (.refl k) hl
  exact h₁.trans (.enviar (e := .finalizarProceso p) rfl rfl rfl)

theorem wait_sinIniciar (cfg : KernelConfiguracion) (k : Estado) (recurso : Cadena) (p : ℕ) :
    SinIniciar k (wait cfg k recurso p).1 := by
  rcases wait_cases cfg k recurso p with ⟨-, heq⟩ | ⟨i, k₁, -, rfl, ⟨-, heq⟩ | ⟨-, heq⟩⟩
  · rw [heq]
    exact .refl k
  · rw [heq]
    exact .enviar (e := .interrupcion p "WAIT".toList) rfl rfl rfl
  · rw [heq]
    exact .of_eq rfl rfl

theorem bloquearPorIo_sinIniciar {interfaz : Cadena}
    (h : bloquearPorIo cfg k lista p motivo interfaz = some k') : SinIniciar k k' := by
  obtain ⟨i, -, h⟩ := Option.bind_eq_some_iff.1 h
  dsimp only at h
  split_ifs at h
  obtain ⟨argumentos, -, h⟩ := Option.bind_eq_some_iff.1 h
  obtain ⟨conexion, -, rfl⟩ := Option.map_eq_some_iff.1 h
  refine ⟨rfl, argumentos.toList.map (fun args => .interfaz conexion p motivo args) ++
    [.interrupcion p motivo], ?_, fun e he => ?_⟩
  · show (k.enviados ++ _) ++ [_] = _
    rw [List.append_assoc]
  rcases List.mem_append.1 he with he | he
  · obtain ⟨args, -, rfl⟩ := List.mem_map.1 he
    rfl
  · rw [List.mem_singleton.1 he]
    rfl

theorem atenderSolicitudCpu_sinIniciar (h : atenderSolicitudCpu cfg k lista p motivo = some k') :
    SinIniciar k k' := by
  rcases atenderSolicitudCpu_cases h with ⟨-, rfl⟩ | ⟨k₀, hk₀, hcases⟩
  · exact iniciar_sinIniciar cfg k p motivo
  have h₀ : SinIniciar k k₀ := by
    rw [hk₀]
    exact .of_eq rfl rfl
  apply h₀.trans
  rcases hcases with ⟨noCumplio, motivo', -, ht⟩ | ⟨interfaz, -, hb⟩ | ⟨recurso, rfl⟩ |
    ⟨recurso, hs⟩ | rfl
  · obtain ⟨k₁, he, rfl⟩ := terminar_eq_some ht
    have hdesalojar : SinIniciar k₀ (desalojarPorInstruccion cfg k₀) := .of_eq rfl rfl
    exact (hdesalojar.trans (exitPrima_sinIniciar he)).trans
      (.enviar (e := .interrupcion p motivo') rfl rfl rfl)
  · exact bloquearPorIo_sinIniciar hb
  · exact wait_sinIniciar cfg _ recurso p
  · exact signal_sinIniciar hs
  · exact .refl _

theorem recibirPaqueteCpu_sinIniciar (h : recibirPaqueteCpu cfg k p motivo lista = some k') :
    SinIniciar k k' := by
  unfold recibirPaqueteCpu at h
  split_ifs at h
  have h₀ : SinIniciar k { k with motivo := motivo } := .of_eq rfl rfl
  exact h₀.trans (atenderSolicitudCpu_sinIniciar h)

theorem recibirMensajeCpu_sinIniciar (k : Estado) : SinIniciar k (recibirMensajeCpu k).1 := by
  unfold recibirMensajeCpu
  split_ifs <;> exact .of_eq rfl rfl

theorem administrarProcesosNew_sinIniciar (h : administrarProcesosNew k = some k') :
    SinIniciar k k' := by
  obtain ⟨q, k₁, pendientes, primero, -, -, hd, -, rfl⟩ := administrarProcesosNew_eq_some h
  obtain ⟨resto, -, rfl⟩ := desencolar_eq_some hd
  exact .of_eq rfl rfl

theorem finDeIo_sinIniciar {idInterfaz mensaje : Cadena}
    (h : finDeIo cfg k idInterfaz mensaje = some k') : SinIniciar k k' := by
  rcases finDeIo_cases h with rfl | ⟨i, fin, -, -, hd⟩
  · exact .refl _
  · exact desbloquear_sinIniciar hd

theorem terminarReplanificacion_sinIniciar (h : terminarReplanificacion k l = some k') :
    SinIniciar k k' := by
  obtain ⟨m, q, k₁, _, _, _, _, -, hd, rfl⟩ := terminarReplanificacion_desencola h
  obtain ⟨resto, -, rfl⟩ := desencolar_eq_some hd
  exact .of_eq rfl rfl

end SimuladorSO.Kernel
